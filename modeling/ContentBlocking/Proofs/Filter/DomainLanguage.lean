import ContentBlocking.Proofs.Filter.FilterSize
import ContentBlocking.Proofs.Filter.UrlParts

/-!
# The language of a filter for a domain

The tree of a filter for a domain is known, so it is known which URLs the filter matches: those with
a start, the domain, a port number whose colon may be absent, and a slash. Only its size can stand
against the filter. Domains of usual length are far away from that, and very long ones are always
refused.
-/

namespace ContentBlocking

open Text Pattern

/-- The characters of domains: ASCII letters, digits, hyphens and dots. -/
def Url.isDomainChar (c : Char) : Bool := c.isAlphanum || c = '-' || c = '.'

namespace Filter

theorem isLiteral_of_areDomainChars {domain : List Char}
    (inDomain : ∀ c ∈ domain, Url.isDomainChar c = true) :
    domain.all isLiteral = true :=
  List.all_eq_true.mpr fun c member => isLiteral_of_property (by decide) (inDomain c member)

def domainTrees (domain : List Char) : List Written :=
  domain.map Written.literal ++ [loosePortTree, .literal '/'] ++
    [.anyNumber (.set .unicode (.except '\n'))]

theorem domainTree_eq (domain : List Char) :
    domainTree domain = .seq (startItems.map Item.tree ++ domainTrees domain) := by
  have characters : (domain.map fun c => ({ tree := .literal c } : Item)).map Item.tree =
      domain.map Written.literal := by
    rw [List.map_map]
    rfl
  rw [domainTree, domainItems, List.map_append, List.map_append, characters, domainTrees,
    List.append_assoc, List.append_assoc]
  rfl

section Filters

variable {domain : String} (literal : domain.toList.all isLiteral = true)

include literal

theorem written_domainTrees :
    Written.ofChars? filterFlags (ofDomain domain).toList =
      some (.seq (startItems.map Item.tree ++ domainTrees domain.toList)) := by
  rw [written_ofDomain literal, domainTree_eq]

/-- A filter is never refused for a domain of usual length. -/
theorem isSome_ofDomain_of_length_le (short : domain.length ≤ 10000) :
    (Pattern.ofFilter? (ofDomain domain)).isSome = true := by
  have atEnd : Outline.areWithin
      (([loosePortTree, .literal '/'] ++
        [Written.anyNumber (.set .unicode (.except '\n'))]).map Written.outline) 3000 = true := by
    decide +kernel
  have within := Outline.areWithin_append (Written.areWithin_literals domain.toList) atEnd
  rw [← List.map_append, ← List.append_assoc] at within
  apply isSome_of_areWithin (written_domainTrees literal) within
  rw [String.length_toList]
  omega

/-- A filter is refused if the characters of the domain fill a machine by themselves. -/
theorem ofFilter?_ofDomain_eq_none (long : 327680 ≤ domain.length) :
    Pattern.ofFilter? (ofDomain domain) = none := by
  have bytes := Written.le_sum_leastBytes_literals domain.toList
  rw [String.length_toList] at bytes
  apply ofFilter?_eq_none (written_domainTrees literal)
  rw [domainTrees, List.append_assoc, List.map_append, List.map_append, List.sum_append,
    Machine.sizeLimit]
  omega

/-- An accepted filter for a domain matches a start, the domain, perhaps digits with or without a
colon, and a slash with anything behind it. -/
theorem matches_ofDomain_iff_exists (accepted : (Pattern.ofFilter? (ofDomain domain)).isSome = true)
    {url : String} :
    Matches (ofDomain domain) url ↔
      ∃ start name port rest, url.toList = start ++ name ++ port ++ '/' :: rest ∧
        Url.IsStart start ∧ SameText name domain.toList ∧ Url.IsLoosePort port := by
  obtain ⟨portLanguage, portDescribed, isPort⟩ := describes_loosePortTree
  have slash := (Written.describes_literal '/').single
  rw [anyCase_marks (by decide)] at slash
  have described : (sequence ((domain.toList.map Written.literal ++
      [loosePortTree, .literal '/']).map Written.toPattern)).Describes
        (anyCase domain.toList * (portLanguage * {['/']})) := by
    rw [List.map_append]
    exact (Written.describes_literals domain.toList).append (portDescribed.cons slash)
  have written := written_domainTrees literal
  have fits := (isSome_iff_of_written written).mp accepted
  rw [matches_iff_of_fits written fits, domainTrees, occursIn_start_line_iff described]
  constructor
  · rintro ⟨start, _, rest, whole, isStart, name, sameName, _, ⟨port, inPorts, _, rfl, rfl⟩, rfl⟩
    refine ⟨start, name, port, rest, ?_, isStart, sameName, (isPort port).mp inPorts⟩
    rw [whole]
    simp
  · rintro ⟨start, name, port, rest, whole, isStart, sameName, loosePort⟩
    refine ⟨start, name ++ (port ++ ['/']), rest, ?_, isStart, name, sameName, port ++ ['/'],
      ⟨port, (isPort port).mpr loosePort, ['/'], rfl, rfl⟩, rfl⟩
    rw [whole]
    simp

/-- Filters for domains of up to ten thousand characters are accepted, so they match under no
further condition. -/
theorem matches_ofDomain_iff_of_length_le (short : domain.length ≤ 10000) {url : String} :
    Matches (ofDomain domain) url ↔
      ∃ start name port rest, url.toList = start ++ name ++ port ++ '/' :: rest ∧
        Url.IsStart start ∧ SameText name domain.toList ∧ Url.IsLoosePort port :=
  matches_ofDomain_iff_exists literal (isSome_ofDomain_of_length_le literal short)

end Filters

/-! ## All domains -/

/-- A filter for a domain is refused if a machine for it is too large, and for no other reason. If
it is not refused, it matches the URLs that consist of a start, the domain, a port number whose
colon may be absent, a slash, and any rest. -/
theorem ofDomain_language {domain : String}
    (plain : ∀ c ∈ domain.toList, Url.isDomainChar c = true) :
    ((Pattern.ofFilter? (ofDomain domain)).isSome = true ↔
        (domainTree domain.toList).outline.hasSmallMachines = true) ∧
      (domain.length ≤ 10000 → (Pattern.ofFilter? (ofDomain domain)).isSome = true) ∧
      (327680 ≤ domain.length → Pattern.ofFilter? (ofDomain domain) = none) ∧
      ((Pattern.ofFilter? (ofDomain domain)).isSome = true → ∀ url,
        Matches (ofDomain domain) url ↔
          ∃ start name port rest, url.toList = start ++ name ++ port ++ '/' :: rest ∧
            Url.IsStart start ∧ SameText name domain.toList ∧ Url.IsLoosePort port) := by
  have literal := isLiteral_of_areDomainChars plain
  have machines := isSome_iff_hasSmallMachines (written_domainTrees literal)
  rw [← domainTree_eq] at machines
  refine ⟨machines, isSome_ofDomain_of_length_le literal, ofFilter?_ofDomain_eq_none literal, ?_⟩
  intro accepted url
  exact matches_ofDomain_iff_exists literal accepted

theorem ofDomain_language_ad :
    (∀ c ∈ "ad.com".toList, Url.isDomainChar c = true) ∧
      (Pattern.ofFilter? (ofDomain "ad.com")).isSome = true ∧
      Matches (ofDomain "ad.com") "https://cdn.AD.com:80/x" := by
  have plain : ∀ c ∈ "ad.com".toList, Url.isDomainChar c = true :=
    List.all_eq_true.mp (by decide)
  obtain ⟨_, short, _, language⟩ := ofDomain_language plain
  have accepted := short (by decide)
  have isStart : Url.IsStart "https://cdn.".toList := by
    refine ⟨"https".toList, [], ["cdn".toList], rfl, Or.inr (Or.inr (by decide)), Or.inl rfl, ?_⟩
    intro label member
    rw [List.mem_singleton.mp member]
    decide
  have isPort : Url.IsLoosePort ":80".toList :=
    Or.inl (Or.inr ⟨"80".toList, rfl, by decide⟩)
  refine ⟨plain, accepted, (language accepted _).mpr ?_⟩
  exact ⟨"https://cdn.".toList, "AD.com".toList, ":80".toList, "x".toList, rfl, isStart,
    by decide, isPort⟩

/-- All letters may stand in domains, but there are too many of them. -/
theorem ofFilter?_ofDomain_manyLetters :
    (∀ c ∈ (letters 327680).toList, Url.isDomainChar c = true) ∧
      Pattern.ofFilter? (ofDomain (letters 327680)) = none := by
  have plain : ∀ c ∈ (letters 327680).toList, Url.isDomainChar c = true := by
    intro c member
    rw [eq_of_mem_letters member]
    decide
  have long : 327680 ≤ (letters 327680).length := Nat.le_of_eq (length_letters 327680).symm
  exact ⟨plain, ofFilter?_ofDomain_eq_none (isLiteral_of_areDomainChars plain) long⟩

end Filter

end ContentBlocking
