import ContentBlocking.Proofs.Filter.AllowlistTree

/-!
# The language of a filter for an entry of an allowlist

The filter for an entry without a slash matches the URLs with a start and the entry. If the entry
has a slash, a port number may stand in front of it in the URL. In both cases anything may follow,
and as for domains nothing but the size of an entry can stand against its filter.
-/

namespace ContentBlocking.Filter

open Text Pattern

/-- Whether a character of an entry has no meaning in patterns once it has been escaped. -/
def isUnmarked (c : Char) : Bool :=
  c ∉ ['?', '*', '+', '(', ')', '[', ']', '\x7b', '\x7d', '|', '^', '$']

theorem isLiteral_of_areUnmarked {entry : List Char}
    (unmarked : ∀ c ∈ entry, isUnmarked c = true) :
    entry.all isLiteral = true :=
  List.all_eq_true.mpr fun c member => isLiteral_of_property (by decide) (unmarked c member)

/-! ## What stands behind the start -/

def entryTrees (entry : List Char) : List Written := (entryItems entry).map Item.tree

theorem entryTree_eq (entry : List Char) :
    entryTree entry = .seq (startItems.map Item.tree ++
      (entryTrees entry ++ [.anyNumber (.set .unicode (.except '\n'))])) := by
  rw [entryTree, List.map_append, List.map_append]
  rfl

theorem map_tree_literalItems (text : List Char) :
    (literalItems text).map Item.tree = text.map Written.literal := by
  rw [literalItems, List.map_map]
  rfl

section Entries

variable {entry host path : List Char}

theorem entryTrees_of_not_mem (noSlash : '/' ∉ entry) :
    entryTrees entry = entry.map Written.literal := by
  rw [entryTrees, entryItems_of_not_mem noSlash, map_tree_literalItems]

/-- An optional port number stands between the host and the path of an entry. -/
theorem entryTrees_of_slash (noSlash : '/' ∉ host) :
    entryTrees (host ++ '/' :: path) =
      host.map Written.literal ++ ([portTree] ++ ('/' :: path).map Written.literal) := by
  rw [entryTrees, entryItems_of_slash noSlash, List.map_append, List.map_cons,
    map_tree_literalItems, map_tree_literalItems]
  rfl

theorem areWithin_entryTrees (entry : List Char) :
    Outline.areWithin ((entryTrees entry).map Written.outline) (entry.length * 932 + 2000) =
      true := by
  by_cases slash : '/' ∈ entry
  · obtain ⟨host, path, rfl, noSlash⟩ := List.eq_append_cons_of_mem slash
    have port : Outline.areWithin ([portTree].map Written.outline) 2000 = true := by
      decide +kernel
    have inPath := Outline.areWithin_append port (Written.areWithin_literals ('/' :: path))
    have whole := Outline.areWithin_append (Written.areWithin_literals host) inPath
    rw [entryTrees_of_slash noSlash, List.map_append, List.map_append]
    refine Outline.areWithin_mono whole ?_
    rw [List.length_append]
    omega
  · rw [entryTrees_of_not_mem slash]
    exact Outline.areWithin_mono (Written.areWithin_literals entry) (Nat.le_add_right _ 2000)

theorem le_sum_leastBytes_entryTrees (entry : List Char) :
    entry.length * 32 ≤
      (((entryTrees entry).map Written.outline).map Outline.leastBytes).sum := by
  by_cases slash : '/' ∈ entry
  · obtain ⟨host, path, rfl, noSlash⟩ := List.eq_append_cons_of_mem slash
    have inHost := Written.le_sum_leastBytes_literals host
    have inPath := Written.le_sum_leastBytes_literals ('/' :: path)
    rw [entryTrees_of_slash noSlash, List.length_append]
    simp only [List.map_append, List.sum_append]
    omega
  · rw [entryTrees_of_not_mem slash]
    exact Written.le_sum_leastBytes_literals entry

theorem describes_entry_of_not_mem (noSlash : '/' ∉ entry) :
    (sequence ((entryTrees entry).map Written.toPattern)).Describes (anyCase entry) := by
  rw [entryTrees_of_not_mem noSlash]
  exact Written.describes_literals entry

/-- In front of the first slash there may be a port number. -/
theorem describes_entry_of_slash (path : List Char) (noSlash : '/' ∉ host) :
    ∃ language : Language Char,
      (sequence ((entryTrees (host ++ '/' :: path)).map Written.toPattern)).Describes language ∧
        ∀ text, text ∈ language ↔ ∃ name port tail, text = name ++ port ++ '/' :: tail ∧
          SameText name host ∧ Url.IsOptionalPort port ∧ SameText tail path := by
  obtain ⟨portLanguage, portDescribed, isPort⟩ := describes_portTree
  have described := (Written.describes_literals host).append
    (portDescribed.cons (Written.describes_literals ('/' :: path)))
  have slashFirst : anyCase ('/' :: path) = {['/']} * anyCase path := by
    rw [← anyCase_marks (by decide)]
    exact anyCase_append ['/'] path
  rw [slashFirst] at described
  refine ⟨anyCase host * (portLanguage * ({['/']} * anyCase path)), ?_, ?_⟩
  · rw [entryTrees_of_slash noSlash, List.map_append]
    exact described
  · intro text
    constructor
    · rintro ⟨name, sameName, _, ⟨port, inPorts, _, ⟨_, rfl, tail, sameTail, rfl⟩, rfl⟩, rfl⟩
      refine ⟨name, port, tail, ?_, sameName, (isPort port).mp inPorts, sameTail⟩
      simp
    · rintro ⟨name, port, tail, rfl, sameName, optionalPort, sameTail⟩
      refine ⟨name, sameName, port ++ '/' :: tail,
        ⟨port, (isPort port).mpr optionalPort, '/' :: tail, ⟨['/'], rfl, tail, sameTail, rfl⟩, rfl⟩, ?_⟩
      simp

end Entries

/-! ## All entries -/

section Filters

variable {entry : String} (literal : entry.toList.all isLiteral = true)

include literal

theorem written_entryTrees :
    Written.ofChars? filterFlags (ofAllowlistEntry entry).toList =
      some (.seq (startItems.map Item.tree ++ (entryTrees entry.toList ++
        [.anyNumber (.set .unicode (.except '\n'))]))) := by
  rw [written_ofAllowlistEntry literal, entryTree_eq]

theorem isSome_ofAllowlistEntry_of_length_le (short : entry.length ≤ 10000) :
    (Pattern.ofFilter? (ofAllowlistEntry entry)).isSome = true := by
  have line : Outline.areWithin
      ([Written.anyNumber (.set .unicode (.except '\n'))].map Written.outline) 2000 = true := by
    decide +kernel
  have within := Outline.areWithin_append (areWithin_entryTrees entry.toList) line
  rw [← List.map_append] at within
  apply isSome_of_areWithin (written_entryTrees literal) within
  rw [String.length_toList]
  omega

/-- Filters for very long entries are refused, since their machines get too large. -/
theorem ofFilter?_ofAllowlistEntry_eq_none (long : 327680 ≤ entry.length) :
    Pattern.ofFilter? (ofAllowlistEntry entry) = none := by
  have bytes := le_sum_leastBytes_entryTrees entry.toList
  rw [String.length_toList] at bytes
  apply ofFilter?_eq_none (written_entryTrees literal)
  rw [List.map_append, List.map_append, List.sum_append, Machine.sizeLimit]
  omega

section Accepted

variable (accepted : (Pattern.ofFilter? (ofAllowlistEntry entry)).isSome = true) {url : String}

include accepted

theorem matches_ofAllowlistEntry_iff {language : Language Char}
    (described :
      (sequence ((entryTrees entry.toList).map Written.toPattern)).Describes language) :
    Matches (ofAllowlistEntry entry) url ↔
      ∃ start taken rest, url.toList = start ++ taken ++ rest ∧ Url.IsStart start ∧
        taken ∈ language := by
  have written := written_entryTrees literal
  have fits := (isSome_iff_of_written written).mp accepted
  rw [matches_iff_of_fits written fits]
  exact occursIn_start_line_iff described

/-- The filter for an entry without a path leaves open what follows the entry. -/
theorem matches_ofAllowlistEntry_iff_of_not_mem (noSlash : '/' ∉ entry.toList) :
    Matches (ofAllowlistEntry entry) url ↔
      ∃ start name rest, url.toList = start ++ name ++ rest ∧ Url.IsStart start ∧
        SameText name entry.toList :=
  matches_ofAllowlistEntry_iff literal accepted (describes_entry_of_not_mem noSlash)

/-- The filter for an entry with a path allows for a port number in front of the path. -/
theorem matches_ofAllowlistEntry_iff_of_slash {host path : List Char}
    (split : entry.toList = host ++ '/' :: path) (noSlash : '/' ∉ host) :
    Matches (ofAllowlistEntry entry) url ↔
      ∃ start name port tail rest,
        url.toList = start ++ name ++ port ++ '/' :: tail ++ rest ∧ Url.IsStart start ∧
          SameText name host ∧ Url.IsOptionalPort port ∧ SameText tail path := by
  obtain ⟨language, described, isTaken⟩ := describes_entry_of_slash path noSlash
  rw [← split] at described
  rw [matches_ofAllowlistEntry_iff literal accepted described]
  constructor
  · rintro ⟨start, taken, rest, whole, isStart, member⟩
    obtain ⟨name, port, tail, rfl, sameName, isPort, sameTail⟩ := (isTaken taken).mp member
    refine ⟨start, name, port, tail, rest, ?_, isStart, sameName, isPort, sameTail⟩
    rw [whole]
    simp
  · rintro ⟨start, name, port, tail, rest, whole, isStart, sameName, isPort, sameTail⟩
    refine ⟨start, name ++ port ++ '/' :: tail, rest, ?_, isStart,
      (isTaken _).mpr ⟨name, port, tail, rfl, sameName, isPort, sameTail⟩⟩
    rw [whole]
    simp

end Accepted

end Filters

/-- A filter for an entry is refused if a machine for it is too large, and for no other reason. If
it is not refused, it matches the URLs in which the entry follows a start, where a port number may
stand in front of the first slash of the entry. -/
theorem ofAllowlistEntry_language {entry : String}
    (unmarked : ∀ c ∈ entry.toList, isUnmarked c = true) :
    ((Pattern.ofFilter? (ofAllowlistEntry entry)).isSome = true ↔
        (entryTree entry.toList).outline.hasSmallMachines = true) ∧
      (entry.length ≤ 10000 → (Pattern.ofFilter? (ofAllowlistEntry entry)).isSome = true) ∧
      (327680 ≤ entry.length → Pattern.ofFilter? (ofAllowlistEntry entry) = none) ∧
      ((Pattern.ofFilter? (ofAllowlistEntry entry)).isSome = true → ∀ url,
        ('/' ∉ entry.toList →
          (Matches (ofAllowlistEntry entry) url ↔
            ∃ start name rest, url.toList = start ++ name ++ rest ∧ Url.IsStart start ∧
              SameText name entry.toList)) ∧
        ∀ host path, entry.toList = host ++ '/' :: path → '/' ∉ host →
          (Matches (ofAllowlistEntry entry) url ↔
            ∃ start name port tail rest,
              url.toList = start ++ name ++ port ++ '/' :: tail ++ rest ∧ Url.IsStart start ∧
                SameText name host ∧ Url.IsOptionalPort port ∧ SameText tail path)) := by
  have literal := isLiteral_of_areUnmarked unmarked
  have machines := isSome_iff_hasSmallMachines (written_entryTrees literal)
  rw [← entryTree_eq] at machines
  refine ⟨machines, isSome_ofAllowlistEntry_of_length_le literal,
    ofFilter?_ofAllowlistEntry_eq_none literal, ?_⟩
  intro accepted url
  constructor
  · intro noSlash
    exact matches_ofAllowlistEntry_iff_of_not_mem literal accepted noSlash
  · intro host path split noSlash
    exact matches_ofAllowlistEntry_iff_of_slash literal accepted split noSlash

theorem ofAllowlistEntry_language_shop :
    (∀ c ∈ "shop.com/a".toList, isUnmarked c = true) ∧
      (Pattern.ofFilter? (ofAllowlistEntry "shop.com/a")).isSome = true ∧
      Matches (ofAllowlistEntry "shop.com/a") "wss://Shop.com:80/A?b" := by
  have unmarked : ∀ c ∈ "shop.com/a".toList, isUnmarked c = true :=
    List.all_eq_true.mp (by decide)
  obtain ⟨_, short, _, language⟩ := ofAllowlistEntry_language unmarked
  have accepted := short (by decide)
  obtain ⟨_, behindSlash⟩ := language accepted "wss://Shop.com:80/A?b"
  have isStart : Url.IsStart "wss://".toList :=
    ⟨[], "wss".toList, [], rfl, Or.inl rfl, Or.inr (Or.inr (by decide)), by simp⟩
  have isPort : Url.IsOptionalPort ":80".toList :=
    Or.inr ⟨"80".toList, rfl, by decide⟩
  refine ⟨unmarked, accepted, (behindSlash "shop.com".toList ['a'] rfl (by decide)).mpr ?_⟩
  exact ⟨"wss://".toList, "Shop.com".toList, ":80".toList, ['A'], "?b".toList, rfl, isStart,
    by decide, isPort, by decide⟩

/-- No letter is marked, but there are too many of them. -/
theorem ofFilter?_ofAllowlistEntry_manyLetters :
    (∀ c ∈ (letters 327680).toList, isUnmarked c = true) ∧
      Pattern.ofFilter? (ofAllowlistEntry (letters 327680)) = none := by
  have unmarked : ∀ c ∈ (letters 327680).toList, isUnmarked c = true := by
    intro c member
    rw [eq_of_mem_letters member]
    decide
  have long : 327680 ≤ (letters 327680).length := Nat.le_of_eq (length_letters 327680).symm
  exact ⟨unmarked, ofFilter?_ofAllowlistEntry_eq_none (isLiteral_of_areUnmarked unmarked) long⟩

end ContentBlocking.Filter
