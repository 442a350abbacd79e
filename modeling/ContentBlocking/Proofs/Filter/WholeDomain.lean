import ContentBlocking.Proofs.Dataset.PlainTrackers
import ContentBlocking.Proofs.Filter.AllowlistLanguage
import ContentBlocking.Proofs.Filter.DomainLanguage
import ContentBlocking.Proofs.Override.Precedence
import ContentBlocking.Proofs.Pattern.LineStates
import ContentBlocking.Proofs.Pattern.SteadyGrowth

/-!
# Allowing a whole domain

An entry of an allowlist that is a domain frees whatever the filter for the domain matches. That is
a start, the domain and more, so the filter for the entry matches it too unless that filter is
refused for its size. Both filters begin alike, and the one for the domain goes on with a port
number and a slash in front of a line, so its machines take more room. From the front that makes up
for what a line takes in different machines. From the back the line comes first, and what follows it
takes the same room in all machines.
-/

namespace ContentBlocking

open Text Pattern

/-- Some letters have variants of two or three bytes, but all variants begin in different ways. -/
theorem Pattern.Written.isSteady_outline_literal {c : Char} (ascii : c.toNat < 128) :
    (literal c).outline.isSteady = true := by
  have checked : ∀ code < 128, (literal (Char.ofNat code)).outline.isSteady = true := by
    decide +kernel
  have steady := checked c.toNat ascii
  rwa [Char.ofNat_toNat] at steady

namespace Filter

/-! ## What stands in front -/

theorem toNat_lt_of_isDomainChar {c : Char} (inDomain : Url.isDomainChar c = true) :
    c.toNat < 128 := by
  rw [Url.isDomainChar] at inDomain
  delta Char.isAlphanum Char.isAlpha Char.isUpper Char.isLower Char.isDigit at inDomain
  simp only [Bool.or_eq_true, Bool.and_eq_true, decide_eq_true_eq] at inDomain
  -- The small letters are the last of these characters.
  have notAfter : c.val ≤ 'z'.val := by
    rcases inDomain with (((⟨_, capital⟩ | ⟨_, small⟩) | ⟨_, digit⟩) | hyphen) | dot
    · exact UInt32.le_trans capital (by decide)
    · exact small
    · exact UInt32.le_trans digit (by decide)
    · rw [hyphen]
      decide
    · rw [dot]
      decide
  exact Nat.lt_of_le_of_lt notAfter (by decide)

/-- What the outlines of the filter for a domain and of that for an entry begin with. -/
def frontOutlines (domain : List Char) : List Outline :=
  ((startItems.map Item.tree ++ domain.map Written.literal).map Written.outline).foldr
    Outline.prepend []

def lineOutline : Outline := (Written.anyNumber (.set .unicode (.except '\n'))).outline

theorem areSteady_frontOutlines {domain : List Char} (ascii : ∀ c ∈ domain, c.toNat < 128) :
    Outline.areSteady (frontOutlines domain) = true := by
  have start : ∀ tree ∈ startItems.map Item.tree, tree.outline.isSteady = true := by
    decide +kernel
  have each : ∀ part ∈ (startItems.map Item.tree ++ domain.map Written.literal).map Written.outline,
      part.isSteady = true := by
    rw [List.forall_mem_map, List.forall_mem_append]
    refine ⟨start, ?_⟩
    rw [List.forall_mem_map]
    intro c member
    exact Written.isSteady_outline_literal (ascii c member)
  refine List.foldrRecOn (motive := fun joined => Outline.areSteady joined = true) _
    Outline.prepend rfl ?_
  intro joined steady part member
  exact Outline.areSteady_prepend (each part member) steady

theorem outline_front {trees : List Written} {ends : List Outline} (filled : ends ≠ [])
    (apart : Outline.startsApart ends = true)
    (joined : (trees.map Written.outline).foldr Outline.prepend [] = ends) (domain : List Char) :
    (Written.seq (startItems.map Item.tree ++ (domain.map Written.literal ++ trees))).outline =
      .seq (frontOutlines domain ++ ends) := by
  have look : ∃ rest, frontOutlines domain = .look .textStart :: rest := ⟨_, rfl⟩
  obtain ⟨rest, front⟩ := look
  rw [← List.append_assoc, Written.outline, Written.outlines_eq_map, List.map_append,
    Outline.ofSequence, List.foldr_append, joined, Outline.foldr_prepend_append apart,
    ← frontOutlines, front]
  cases ends with
  | nil => exact absurd rfl filled
  | cons first ends =>
      cases rest with
      | nil => rfl
      | cons second rest => rfl

theorem outline_domainTrees (domain : List Char) :
    (Written.seq (startItems.map Item.tree ++ domainTrees domain)).outline =
      .seq (frontOutlines domain ++ [loosePortTree.outline, .literal ['/'], lineOutline]) := by
  rw [domainTrees, List.append_assoc]
  exact outline_front (List.cons_ne_nil _ _) rfl rfl domain

theorem outline_entryTrees {entry : List Char} (noSlash : '/' ∉ entry) :
    (Written.seq (startItems.map Item.tree ++ (entryTrees entry ++
        [.anyNumber (.set .unicode (.except '\n'))]))).outline =
      .seq (frontOutlines entry ++ [lineOutline]) := by
  rw [entryTrees_of_not_mem noSlash]
  exact outline_front (List.cons_ne_nil _ _) rfl rfl entry

/-! ## What stands behind -/

theorem growth_line (direction : Direction) : lineOutline.growth direction =
    .inTurn [.fork 2, setGrowth direction (.except '\n')] := rfl

theorem addsAtMost_lineOutline : (lineOutline.growth .forward).AddsAtMost 624 := by
  rw [growth_line]
  exact Growth.addsAtMost_inTurn (.cons (Growth.addsAtMost_fork 2) (.cons addsAtMost_line .nil))

theorem addsAtLeast_lineOutline : (lineOutline.growth .forward).AddsAtLeast 264 := by
  rw [growth_line]
  exact Growth.addsAtLeast_inTurn
    (.cons (Growth.addsAtLeast_fixed ⟨1, 8⟩) (.cons addsAtLeast_line .nil))

/-- From the front a line takes different room in different machines. A port number and a slash make
up for that. -/
theorem isBelow_forward (front : List Outline) :
    ((Outline.seq (front ++ [lineOutline])).growth .forward).IsBelow
      ((Outline.seq (front ++ [loosePortTree.outline, .literal ['/'], lineOutline])).growth
        .forward) 0 := by
  have port : (loosePortTree.outline.growth .forward).AddsAtLeast 352 :=
    Growth.addsAtLeast_fixed ⟨10, 32⟩
  have slash : ((Outline.literal ['/']).growth .forward).AddsAtLeast 32 :=
    Growth.addsAtLeast_fixed ⟨1, 0⟩
  have same := Growth.isBelow_self (.inTurn (Outline.growths .forward front))
  have longer := (same.append_addsAtLeast port).append_addsAtLeast slash
  have ended := longer.append_of_bounds addsAtMost_lineOutline addsAtLeast_lineOutline (by decide)
  rw [Outline.growth, Outline.growth, if_pos rfl, if_pos rfl, Outline.growths_append,
    Outline.growths_append, Growth.inTurn, Growth.inTurn, List.foldl_append, List.foldl_append]
  exact ended

/-- From the back a line comes first, so it takes the same room in both machines. -/
theorem isBelow_backward {front : List Outline} (steady : Outline.areSteady front = true) :
    ((Outline.seq (front ++ [lineOutline])).growth .backward).IsBelow
      ((Outline.seq (front ++ [loosePortTree.outline, .literal ['/'], lineOutline])).growth
        .backward) 0 := by
  have grows : ∀ outline : Outline, (outline.growth .backward).AddsAtLeast 0 := fun outline =>
    (Outline.addsAtLeast_leastBytes .backward outline).weaken (Nat.zero_le _)
  have same := Growth.isBelow_self (.append .none (lineOutline.growth .backward))
  have longer := (same.append_addsAtLeast (grows (.literal ['/']))).append_addsAtLeast
    (grows loosePortTree.outline)
  have ended := longer.foldl_append fun part member =>
    Outline.isSteady_growths steady part (List.mem_reverse.mp member)
  rw [Outline.growth, Outline.growth, if_neg (by decide), if_neg (by decide), Outline.growths_append,
    Outline.growths_append, List.reverse_append, List.reverse_append, Growth.inTurn, Growth.inTurn,
    List.foldl_append, List.foldl_append]
  exact ended

theorem isBound_forward (domain : List Char) (ends : List Outline) :
    (Outline.seq (frontOutlines domain ++ ends)).isBound .forward = true := rfl

theorem isBound_backward (front ends : List Outline) :
    (Outline.seq (front ++ (ends ++ [lineOutline]))).isBound .backward = false := by
  rw [Outline.isBound, if_neg (by decide), Outline.partBindings_append, Outline.partBindings_append,
    List.reverse_append, List.reverse_append]
  rfl

/-- An allowlist filter without a path is not refused if the filter for its domain is not. -/
theorem hasSmallMachines_entryTrees {domain : List Char} (noSlash : '/' ∉ domain)
    (ascii : ∀ c ∈ domain, c.toNat < 128)
    (small : (Written.seq (startItems.map Item.tree ++ domainTrees domain)).outline.hasSmallMachines =
      true) :
    (Written.seq (startItems.map Item.tree ++ (entryTrees domain ++
      [.anyNumber (.set .unicode (.except '\n'))]))).outline.hasSmallMachines = true := by
  rw [outline_domainTrees] at small
  rw [outline_entryTrees noSlash]
  refine Outline.hasSmallMachines_of_isBelow ?_ small
  intro direction
  cases direction with
  | forward =>
      apply Outline.machine_isBelow
      · rw [isBound_forward, isBound_forward]
      · exact isBelow_forward (frontOutlines domain)
  | backward =>
      apply Outline.machine_isBelow
      · exact (isBound_backward _ []).trans
          (isBound_backward _ [loosePortTree.outline, .literal ['/']]).symm
      · exact isBelow_backward (areSteady_frontOutlines ascii)

/-! ## Languages -/

section Languages

variable {domain : String} (plain : ∀ c ∈ domain.toList, Url.isDomainChar c = true)

include plain

theorem slash_not_mem_of_areDomainChars : '/' ∉ domain.toList := by
  intro member
  exact absurd (plain '/' member) (by decide)

/-- If the filter for a domain is accepted, so is the filter for the entry that consists of the
domain. -/
theorem isSome_ofAllowlistEntry_of_isSome_ofDomain
    (accepted : (Pattern.ofFilter? (ofDomain domain)).isSome = true) :
    (Pattern.ofFilter? (ofAllowlistEntry domain)).isSome = true := by
  have literal := isLiteral_of_areDomainChars plain
  rw [isSome_iff_hasSmallMachines (written_domainTrees literal)] at accepted
  rw [isSome_iff_hasSmallMachines (written_entryTrees literal)]
  apply hasSmallMachines_entryTrees (slash_not_mem_of_areDomainChars plain)
  · intro c member
    exact toNat_lt_of_isDomainChar (plain c member)
  · exact accepted

/-- The filter for an allowlist entry that is a domain matches whatever the filter for the domain
matches. -/
theorem matches_ofAllowlistEntry_of_matches_ofDomain {url : String}
    (matched : Matches (ofDomain domain) url) :
    Matches (ofAllowlistEntry domain) url := by
  have literal := isLiteral_of_areDomainChars plain
  have accepted := isSome_ofAllowlistEntry_of_isSome_ofDomain plain matched.isSome
  have noSlash := slash_not_mem_of_areDomainChars plain
  obtain ⟨start, name, port, rest, whole, isStart, sameName, _⟩ :=
    (matches_ofDomain_iff_exists literal matched.isSome).mp matched
  rw [matches_ofAllowlistEntry_iff_of_not_mem literal accepted noSlash]
  refine ⟨start, name, port ++ '/' :: rest, ?_, isStart, sameName⟩
  rw [whole, List.append_assoc]

end Languages

end Filter

/-- An allowlist entry that is a domain and holds on all pages frees what the filter for the domain
matches, whatever the dataset says about it. -/
theorem Dataset.allows_buildRules_of_matches_ofDomain (dataset : Dataset) {overrides : Overrides}
    {domain : String} (plain : ∀ c ∈ domain.toList, Url.isDomainChar c = true)
    (listed : ⟨domain, .all⟩ ∈ overrides.allowlist) {request : Request}
    (matched : Filter.Matches (Filter.ofDomain domain) request.url) :
    (RuleList.verdict (dataset.buildRules overrides) request).decision = .allow := by
  apply (dataset.decision_buildRules overrides request).1
  right
  refine ⟨⟨domain, .all⟩, listed, ?_, trivial⟩
  exact Filter.matches_ofAllowlistEntry_of_matches_ofDomain plain matched

/-- The trackers block this request, and the shop that owns one of them does not free it. -/
theorem Dataset.allows_nestedTrackers_of_listed :
    (∀ c ∈ "ad.com".toList, Url.isDomainChar c = true) ∧
      Filter.Matches (Filter.ofDomain "ad.com") "http://cdn.ad.com/a" ∧
      (RuleList.verdict (nestedTrackers.buildRules { allowlist := [⟨"ad.com", .all⟩] })
        { url := "http://cdn.ad.com/a", page := "http://shop.com/",
          resourceType := some .popup, loadType := some .thirdParty,
          loadContext := some .childFrame }).decision = .allow := by
  have plain : ∀ c ∈ "ad.com".toList, Url.isDomainChar c = true :=
    List.all_eq_true.mp (by decide)
  refine ⟨plain, ofDomain_matches_subdomain, ?_⟩
  exact nestedTrackers.allows_buildRules_of_matches_ofDomain plain List.mem_cons_self
    ofDomain_matches_subdomain

end ContentBlocking
