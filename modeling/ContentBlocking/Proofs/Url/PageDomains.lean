import ContentBlocking.Url

/-!
# The domains to which a host belongs

The domains of a host are found by joining its labels again, from each of them to the last one. They
are the texts with a dot that are the host or end it behind a dot, in the order of their lengths,
whatever the labels are. So a host without a dot belongs to no domain.
-/

namespace ContentBlocking.Url

variable {domain host rest : List Char}

/-! ## Labels -/

theorem ofLabels_labels (host : List Char) : ofLabels (labels host) = host :=
  List.intercalate_splitOn '.'

theorem labels_dot (rest : List Char) : labels ('.' :: rest) = [] :: labels rest := by
  rw [labels, List.splitOn_cons_eq_if_modifyHead]
  rfl

/-- A character in front of a host lengthens its first label. -/
theorem tail_labels_cons {c : Char} (notDot : c ≠ '.') :
    (labels (c :: rest)).tail = (labels rest).tail := by
  rw [labels, List.splitOn_cons_eq_if_modifyHead, if_neg (by simpa using notDot), ← labels]
  cases labels rest <;> rfl

theorem tail_labels_eq_nil_iff : (labels host).tail = [] ↔ '.' ∉ host := by
  induction host with
  | nil => simp [labels]
  | cons c rest inductionHypothesis =>
      by_cases dot : c = '.'
      · subst dot
        rw [labels_dot, List.tail_cons]
        simp [labels, List.splitOn_ne_nil]
      · rw [tail_labels_cons dot, inductionHypothesis, List.mem_cons, not_or]
        simp [Ne.symm dot]

/-- The first domain is the host itself, unless it has a single label. -/
theorem domainsOfLabels_labels (host : List Char) :
    domainsOfLabels (labels host) =
      if '.' ∈ host then host :: domainsOfLabels (labels host).tail else [] := by
  have whole := ofLabels_labels host
  have single : (labels host).tail = [] ↔ '.' ∉ host := tail_labels_eq_nil_iff
  match parts : labels host with
  | [] => exact absurd parts (List.splitOn_ne_nil _ _)
  | [only] =>
      rw [parts, List.tail_cons] at single
      rw [if_neg (single.mp rfl)]
      rfl
  | first :: second :: others =>
      rw [parts] at whole single
      rw [if_pos (by simpa using single), domainsOfLabels, whole]
      rfl

/-! ## Suffixes -/

/-- The domains of a host are the host and those behind its first label, if these end it behind a
dot. -/
theorem mem_domainsOfLabels_iff_of_tail
    (behindFirst : domain ∈ domainsOfLabels (labels host).tail ↔
      '.' ∈ domain ∧ '.' :: domain <:+ host) :
    domain ∈ domainsOfLabels (labels host) ↔
      '.' ∈ domain ∧ (domain = host ∨ '.' :: domain <:+ host) := by
  rw [domainsOfLabels_labels]
  split
  · rename_i dotted
    rw [List.mem_cons, behindFirst]
    constructor
    · rintro (rfl | ⟨dottedDomain, isSuffix⟩)
      · exact ⟨dotted, Or.inl rfl⟩
      · exact ⟨dottedDomain, Or.inr isSuffix⟩
    · rintro ⟨dottedDomain, rfl | isSuffix⟩
      · exact Or.inl rfl
      · exact Or.inr ⟨dottedDomain, isSuffix⟩
  · -- Only a text with a dot has a suffix with a dot.
    rename_i single
    refine iff_of_false List.not_mem_nil ?_
    rintro ⟨dottedDomain, rfl | isSuffix⟩
    · exact single dottedDomain
    · exact single (isSuffix.subset List.mem_cons_self)

theorem mem_domainsOfLabels_tail_iff :
    domain ∈ domainsOfLabels (labels host).tail ↔ '.' ∈ domain ∧ '.' :: domain <:+ host := by
  induction host with
  | nil => simp [labels, domainsOfLabels]
  | cons c rest inductionHypothesis =>
      rw [List.suffix_cons_iff, List.cons.injEq]
      by_cases dot : c = '.'
      · subst dot
        rw [labels_dot, List.tail_cons, mem_domainsOfLabels_iff_of_tail inductionHypothesis]
        simp
      · rw [tail_labels_cons dot, inductionHypothesis]
        simp [Ne.symm dot]

theorem mem_domainsOfLabels_iff :
    domain ∈ domainsOfLabels (labels host) ↔
      '.' ∈ domain ∧ (domain = host ∨ '.' :: domain <:+ host) :=
  mem_domainsOfLabels_iff_of_tail mem_domainsOfLabels_tail_iff

theorem pairwise_domainsOfLabels_of_tail
    (behindFirst : (domainsOfLabels (labels host).tail).Pairwise
      fun longer shorter => shorter.length < longer.length) :
    (domainsOfLabels (labels host)).Pairwise fun longer shorter => shorter.length < longer.length := by
  rw [domainsOfLabels_labels]
  split
  · refine List.pairwise_cons.mpr ⟨?_, behindFirst⟩
    intro other member
    exact (mem_domainsOfLabels_tail_iff.mp member).2.length_le
  · exact List.Pairwise.nil

/-- Each domain is shorter than those in front of it, so none is repeated. -/
theorem pairwise_domainsOfLabels (host : List Char) :
    (domainsOfLabels (labels host)).Pairwise fun longer shorter => shorter.length < longer.length := by
  apply pairwise_domainsOfLabels_of_tail
  induction host with
  | nil => exact List.Pairwise.nil
  | cons c rest inductionHypothesis =>
      by_cases dot : c = '.'
      · subst dot
        exact pairwise_domainsOfLabels_of_tail inductionHypothesis
      · rwa [tail_labels_cons dot]

/-! ## Pages -/

/-- A host belongs to itself and to what stands behind its dots, as long as there is a dot left. -/
theorem mem_domainsOfHost_iff {domain host : String} :
    domain ∈ domainsOfHost host ↔
      '.' ∈ domain.toList ∧ (domain = host ∨ '.' :: domain.toList <:+ host.toList) := by
  have characters : domain ∈ domainsOfHost host ↔
      domain.toList ∈ domainsOfLabels (labels host.toList) := by
    rw [domainsOfHost, List.mem_map]
    constructor
    · rintro ⟨text, member, rfl⟩
      rwa [String.toList_ofList]
    · intro member
      exact ⟨domain.toList, member, String.ofList_toList⟩
  rw [characters, mem_domainsOfLabels_iff, String.toList_inj]

theorem pairwise_domainsOfHost (host : String) :
    (domainsOfHost host).Pairwise fun longer shorter => shorter.length < longer.length := by
  rw [domainsOfHost, List.pairwise_map]
  refine (pairwise_domainsOfLabels host.toList).imp ?_
  intro longer shorter isShorter
  rwa [String.length_ofList, String.length_ofList]

/-- A page belongs to the domains of its host, if that has a dot. -/
theorem pageDomains?_of_host? {url host : String} (found : host? url = some host) :
    pageDomains? url = if '.' ∈ host.toList then some (domainsOfHost host) else none := by
  have filled : (domainsOfHost host).isEmpty = false ↔ '.' ∈ host.toList := by
    rw [domainsOfHost, domainsOfLabels_labels, List.isEmpty_map]
    split <;> simp [*]
  rw [pageDomains?, found, Option.map_some, Option.filter_some]
  simp only [Bool.not_eq_true', filled]

/-- A page without domains has a host without a dot, which belongs to no domain. -/
theorem getD_pageDomains?_of_host? {url host : String} (found : host? url = some host) :
    (pageDomains? url).getD [] = domainsOfHost host := by
  rw [pageDomains?_of_host? found]
  split
  · rfl
  · rename_i single
    rw [Option.getD_none, domainsOfHost, domainsOfLabels_labels, if_neg single]
    rfl

end ContentBlocking.Url
