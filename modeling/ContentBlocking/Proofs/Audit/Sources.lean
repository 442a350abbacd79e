import ContentBlocking.Audit
import ContentBlocking.Proofs.Dataset.Placements
import ContentBlocking.Proofs.Override.Precedence
import ContentBlocking.Proofs.RuleList.Outcome
import ContentBlocking.Proofs.SortedMap
import ContentBlocking.Proofs.Tracker.Rules

/-!
# Sources of malformed filters

An audit finds malformed filters in the rule list for a dataset, and looks for their sources by
compiling each tracker again, together with the aliases behind which it is found. Both ways lead to
the same trackers, since the rule list consists of the rules of all places of trackers, and every
place belongs to one key.
-/

namespace ContentBlocking

/-! ## Pieces in a row -/

section Pieces

variable {α β : Type} {pieceOf : α → List β} {items : List α} {first item : α} {index : Nat}

/-- The index belongs to the piece of the item in the row of the pieces of all items. -/
def FallsInto (pieceOf : α → List β) (items : List α) (index : Nat) (item : α) : Prop :=
  ∃ early late,
    items = early ++ item :: late ∧
      (early.flatMap pieceOf).length ≤ index ∧
      index < (early.flatMap pieceOf).length + (pieceOf item).length

/-- An index falls into the piece of the first item or, counted from its end, into a later piece. -/
theorem fallsInto_cons_iff :
    FallsInto pieceOf (first :: items) index item ↔
      item = first ∧ index < (pieceOf first).length ∨
        (pieceOf first).length ≤ index ∧
          FallsInto pieceOf items (index - (pieceOf first).length) item := by
  constructor
  · intro ⟨early, late, split, above, below⟩
    cases early with
    | nil =>
        obtain ⟨rfl, rfl⟩ := List.cons.inj split
        rw [List.flatMap_nil, List.length_nil, Nat.zero_add] at below
        exact Or.inl ⟨rfl, below⟩
    | cons head rest =>
        obtain ⟨rfl, rfl⟩ := List.cons.inj split
        rw [List.flatMap_cons, List.length_append] at above below
        exact Or.inr ⟨by omega, rest, late, rfl, by omega, by omega⟩
  · intro either
    rcases either with ⟨rfl, below⟩ | ⟨behind, early, late, rfl, above, below⟩
    · exact ⟨[], items, rfl, Nat.zero_le index, by simpa using below⟩
    · refine ⟨first :: early, late, rfl, ?_, ?_⟩
      · rw [List.flatMap_cons, List.length_append]
        omega
      · rw [List.flatMap_cons, List.length_append]
        omega

theorem FallsInto.mem (falls : FallsInto pieceOf items index item) : item ∈ items := by
  obtain ⟨early, late, rfl, _⟩ := falls
  exact List.mem_append_right early List.mem_cons_self

theorem FallsInto.eq {other : α} (falls : FallsInto pieceOf items index item)
    (fallsToo : FallsInto pieceOf items index other) :
    item = other := by
  induction items generalizing index with
  | nil => cases falls.mem
  | cons first rest inductionHypothesis =>
      rcases fallsInto_cons_iff.mp falls with ⟨same, here⟩ | ⟨behind, inRest⟩ <;>
        rcases fallsInto_cons_iff.mp fallsToo with ⟨sameToo, hereToo⟩ | ⟨behindToo, inRestToo⟩
      · exact same.trans sameToo.symm
      · omega
      · omega
      · exact inductionHypothesis inRest inRestToo

/-- Whatever stands in the row stands in the piece of an item. -/
theorem exists_fallsInto {element : β}
    (found : (items.flatMap pieceOf)[index]? = some element) :
    ∃ item, FallsInto pieceOf items index item ∧ element ∈ pieceOf item := by
  induction items generalizing index with
  | nil => cases found
  | cons first rest inductionHypothesis =>
      rw [List.flatMap_cons] at found
      by_cases here : index < (pieceOf first).length
      · rw [List.getElem?_append_left here] at found
        exact ⟨first, fallsInto_cons_iff.mpr (Or.inl ⟨rfl, here⟩),
          List.mem_of_getElem? found⟩
      · have behind : (pieceOf first).length ≤ index := Nat.le_of_not_lt here
        rw [List.getElem?_append_right behind] at found
        obtain ⟨item, falls, member⟩ := inductionHypothesis found
        exact ⟨item, fallsInto_cons_iff.mpr (Or.inr ⟨behind, falls⟩), member⟩

end Pieces

/-! ## Malformed filters -/

/-- The filter of some rule has no pattern. -/
def RuleList.HasMalformed (rules : List Rule) : Prop :=
  ∃ rule ∈ rules, Pattern.ofFilter? rule.trigger.urlFilter = none

namespace RuleList

theorem invalidRules_eq_nil_iff {rules : List Rule} :
    invalidRules rules = [] ↔ ¬ HasMalformed rules := by
  rw [List.eq_nil_iff_forall_not_mem]
  constructor
  · intro none ⟨rule, member, malformed⟩
    obtain ⟨index, found⟩ := List.mem_iff_getElem?.mp member
    exact none index (mem_invalidRules.mpr ⟨rule, found, malformed⟩)
  · intro wellFormed index isInvalid
    obtain ⟨rule, found, malformed⟩ := mem_invalidRules.mp isInvalid
    exact wellFormed ⟨rule, List.mem_of_getElem? found, malformed⟩

theorem hasInvalid_iff {rules : List Rule} :
    hasInvalid rules = true ↔ HasMalformed rules := by
  rw [hasInvalid, Bool.not_eq_true', ← Bool.not_eq_true, List.isEmpty_iff,
    invalidRules_eq_nil_iff, not_not]

theorem hasMalformed_append {rules others : List Rule} :
    HasMalformed (rules ++ others) ↔ HasMalformed rules ∨ HasMalformed others := by
  simp only [HasMalformed, List.mem_append, or_and_right, exists_or]

theorem hasMalformed_flatMap {α : Type} {items : List α} {rulesOf : α → List Rule} :
    HasMalformed (items.flatMap rulesOf) ↔ ∃ item ∈ items, HasMalformed (rulesOf item) := by
  constructor
  · intro ⟨rule, member, malformed⟩
    obtain ⟨item, isItem, inPiece⟩ := List.mem_flatMap.mp member
    exact ⟨item, isItem, rule, inPiece, malformed⟩
  · intro ⟨item, isItem, rule, inPiece, malformed⟩
    exact ⟨rule, List.mem_flatMap.mpr ⟨item, isItem, inPiece⟩, malformed⟩

end RuleList

/-- The filter for whole pages is well formed. -/
theorem Overrides.not_hasMalformed_toRules (unprotected : Option (List String)) :
    ¬ RuleList.HasMalformed (Overrides.toRules { unprotected }) := by
  intro ⟨rule, member, malformed⟩
  have isPageRule : rule ∈ Overrides.pageRules { unprotected } := by
    simpa [toRules] using member
  rw [pageRules] at isPageRule
  split at isPageRule
  · cases isPageRule
  · rw [List.mem_singleton.mp isPageRule] at malformed
    obtain ⟨pattern, read, _⟩ := Filter.matches_everything ""
    cases read.symm.trans malformed

namespace Dataset

variable {dataset : Dataset} {key : String} {tracker : Tracker}

/-- The tracker with the key gives a malformed filter, on its own domain or on an alias behind which
it is found. -/
def IsGuilty (dataset : Dataset) (key : String) : Prop :=
  ∃ tracker, dataset.trackers.get? key = some tracker ∧
    (RuleList.HasMalformed (dataset.compileTracker tracker trackerLoadTypes).rules ∨
      ∃ entry ∈ dataset.aliases, dataset.findEntry? entry.2 = some (key, tracker) ∧
        RuleList.HasMalformed
          (dataset.compileTracker (tracker.withDomain entry.1) cnameLoadTypes).rules)

/-! ## Compiled once more -/

theorem mem_aliasesOf_iff (stored : dataset.trackers.get? key = some tracker) {name : String} :
    name ∈ dataset.aliasesOf key ↔
      ∃ target, (name, target) ∈ dataset.aliases ∧
        dataset.findEntry? target = some (key, tracker) := by
  have sameTracker : ∀ target,
      (dataset.findEntry? target).map Prod.fst = some key ↔
        dataset.findEntry? target = some (key, tracker) := by
    intro target
    constructor
    · intro foundKey
      obtain ⟨found, isFound, rfl⟩ := Option.map_eq_some_iff.mp foundKey
      have storedToo := get?_of_findFrom isFound
      rw [stored] at storedToo
      cases storedToo
      exact isFound
    · intro isFound
      rw [isFound]
      rfl
  rw [aliasesOf, List.mem_filterMap]
  simp only [sameTracker, Prod.exists, Option.ite_none_right_eq_some, Option.some.injEq]
  constructor
  · intro ⟨other, target, member, isFound, same⟩
    subst same
    exact ⟨target, member, isFound⟩
  · intro ⟨target, member, isFound⟩
    exact ⟨name, target, member, isFound, rfl⟩

/-- The rules of a stored tracker hold a malformed filter exactly if its key is guilty. -/
theorem hasMalformed_rulesFrom_iff (stored : dataset.trackers.get? key = some tracker) :
    RuleList.HasMalformed (dataset.rulesFrom key tracker) ↔ dataset.IsGuilty key := by
  rw [rulesFrom, RuleList.hasMalformed_append, RuleList.hasMalformed_flatMap]
  constructor
  · intro either
    refine ⟨tracker, stored, either.imp_right ?_⟩
    intro ⟨name, isAlias, malformed⟩
    obtain ⟨target, member, isFound⟩ := (mem_aliasesOf_iff stored).mp isAlias
    exact ⟨(name, target), member, isFound, malformed⟩
  · intro ⟨other, storedToo, either⟩
    rw [stored] at storedToo
    cases storedToo
    apply either.imp_right
    intro ⟨entry, member, isFound, malformed⟩
    exact ⟨entry.1, (mem_aliasesOf_iff stored).mpr ⟨entry.2, member, isFound⟩, malformed⟩

/-- A tracker that is not compiled again has no rules anywhere. -/
theorem rulesFrom_eq_nil (silent : mayGiveRules tracker = false) (key : String) :
    dataset.rulesFrom key tracker = [] := by
  rw [mayGiveRules, Bool.or_eq_false_iff, Bool.not_eq_false', List.isEmpty_iff] at silent
  obtain ⟨notBlocking, noRules⟩ := silent
  have compiled : ∀ (placed : Tracker) (loadTypes : List LoadType),
      placed.isBlocking = false → placed.ruleList = [] →
        (dataset.compileTracker placed loadTypes).rules = [] := by
    intro placed loadTypes ignored none
    simp [compileTracker, Tracker.defaultRules, Tracker.groupedRules, Tracker.ruleGroups,
      RuleList.distinct, ignored, none]
  have onAlias : ∀ name,
      (dataset.compileTracker (tracker.withDomain name) cnameLoadTypes).rules = [] :=
    fun name => compiled _ _ notBlocking noRules
  simp [rulesFrom, compiled tracker trackerLoadTypes notBlocking noRules, onAlias]

/-- The rule for unprotected pages is well formed, so only trackers are sources. -/
theorem invalidSources_eq (dataset : Dataset) (unprotected : Option (List String)) :
    dataset.invalidSources unprotected =
      dataset.trackers.entries.filterMap fun entry =>
        if mayGiveRules entry.2 && RuleList.hasInvalid (dataset.rulesFrom entry.1 entry.2) then
          some entry.1
        else none := by
  cases unprotected with
  | none => exact List.append_nil _
  | some domains =>
      have wellFormed := mt RuleList.hasInvalid_iff.mp
        (Overrides.not_hasMalformed_toRules (some domains))
      rw [invalidSources, if_neg wellFormed, List.append_nil]

/-- The sources are the guilty keys, whatever pages are unprotected. -/
theorem mem_invalidSources_iff {unprotected : Option (List String)} :
    key ∈ dataset.invalidSources unprotected ↔ dataset.IsGuilty key := by
  rw [invalidSources_eq, List.mem_filterMap]
  constructor
  · intro ⟨entry, member, kept⟩
    obtain ⟨isSource, same⟩ := Option.ite_none_right_eq_some.mp kept
    cases same
    have malformed := RuleList.hasInvalid_iff.mp (Bool.and_eq_true_iff.mp isSource).2
    exact (hasMalformed_rulesFrom_iff (SortedMap.mem_entries_iff.mp member)).mp malformed
  · intro guilty
    have ⟨tracker, stored, _⟩ := guilty
    have malformed := (hasMalformed_rulesFrom_iff stored).mpr guilty
    have mayGive : mayGiveRules tracker = true := by
      by_contra silent
      obtain ⟨rule, member, _⟩ := malformed
      rw [rulesFrom_eq_nil (Bool.eq_false_iff.mpr silent)] at member
      cases member
    refine ⟨(key, tracker), SortedMap.mem_entries_iff.mpr stored, if_pos ?_⟩
    exact Bool.and_eq_true_iff.mpr ⟨mayGive, RuleList.hasInvalid_iff.mpr malformed⟩

/-- Sources are listed in increasing order, each once. -/
theorem pairwise_invalidSources (unprotected : Option (List String)) :
    (dataset.invalidSources unprotected).Pairwise (· < ·) := by
  rw [invalidSources_eq, List.pairwise_filterMap]
  apply dataset.trackers.sorted.imp
  intro first second less key kept otherKey otherKept
  obtain ⟨_, same⟩ := Option.ite_none_right_eq_some.mp kept
  obtain ⟨_, otherSame⟩ := Option.ite_none_right_eq_some.mp otherKept
  cases same
  cases otherSame
  exact less

/-! ## Compiled as a whole -/

/-- The rules of a place, whatever the key of its tracker. -/
def keyedRules (dataset : Dataset) (keyed : String × Placement) : List Rule :=
  dataset.placedRules keyed.2

/-- A rule list is the row of the pieces of all placed trackers, with the overrides behind them. -/
theorem buildRules_eq_keyedRules (dataset : Dataset) (overrides : Overrides) :
    dataset.buildRules overrides =
      dataset.keyedPlacements.flatMap dataset.keyedRules ++ overrides.toRules := by
  have sameRules : dataset.keyedPlacements.flatMap dataset.keyedRules =
      dataset.placements.flatMap dataset.placedRules := by
    rw [← map_keyedPlacements, List.flatMap_map]
    rfl
  rw [buildRules_eq, buildRules_eq_flatMap, sameRules]

/-- The guilty trackers are those with malformed filters in some of their places. -/
theorem isGuilty_iff_exists_placement :
    dataset.IsGuilty key ↔
      ∃ keyed ∈ dataset.keyedPlacements,
        keyed.1 = key ∧ RuleList.HasMalformed (dataset.keyedRules keyed) := by
  rw [exists_keyedPlacement_iff]
  constructor
  · intro ⟨tracker, stored, either⟩
    rcases either with malformed | ⟨entry, member, isFound, malformed⟩
    · exact Or.inl ⟨(key, tracker), SortedMap.mem_entries_iff.mpr stored, rfl, malformed⟩
    · exact Or.inr ⟨entry, member, (key, tracker), isFound, rfl, malformed⟩
  · intro either
    rcases either with ⟨entry, member, rfl, malformed⟩ |
      ⟨entry, member, found, isFound, rfl, malformed⟩
    · exact ⟨entry.2, SortedMap.mem_entries_iff.mp member, Or.inl malformed⟩
    · exact ⟨found.2, get?_of_findFrom isFound, Or.inr ⟨entry, member, isFound, malformed⟩⟩

/-- A rule list has a malformed filter exactly if some key is guilty. -/
theorem hasMalformed_buildRules_iff {unprotected : Option (List String)} :
    RuleList.HasMalformed (dataset.buildRules { unprotected }) ↔
      ∃ key, dataset.IsGuilty key := by
  have fromPlacements :
      RuleList.HasMalformed (dataset.buildRules { unprotected }) ↔
        ∃ keyed ∈ dataset.keyedPlacements,
          RuleList.HasMalformed (dataset.keyedRules keyed) := by
    rw [buildRules_eq_keyedRules, RuleList.hasMalformed_append, RuleList.hasMalformed_flatMap]
    exact or_iff_left (Overrides.not_hasMalformed_toRules unprotected)
  rw [fromPlacements]
  constructor
  · intro ⟨keyed, member, malformed⟩
    exact ⟨keyed.1, isGuilty_iff_exists_placement.mpr ⟨keyed, member, rfl, malformed⟩⟩
  · intro ⟨key, guilty⟩
    obtain ⟨keyed, member, _, malformed⟩ := isGuilty_iff_exists_placement.mp guilty
    exact ⟨keyed, member, malformed⟩

/-! ## Audits -/

/-- The sources are looked for only if there are malformed filters, but otherwise there are none. -/
theorem sources_audit (dataset : Dataset) (unprotected : Option (List String)) :
    (dataset.audit unprotected).sources = dataset.invalidSources none := by
  have anyUnprotected : dataset.invalidSources unprotected = dataset.invalidSources none := by
    rw [invalidSources_eq, invalidSources_eq]
  by_cases malformed : RuleList.HasMalformed (dataset.buildRules { unprotected })
  · have notEmpty : ¬ (RuleList.invalidRules
        (dataset.buildRules { unprotected })).isEmpty = true := by
      rw [List.isEmpty_iff, RuleList.invalidRules_eq_nil_iff]
      exact not_not_intro malformed
    rw [audit, if_neg notEmpty, anyUnprotected]
  · have empty : (RuleList.invalidRules
        (dataset.buildRules { unprotected })).isEmpty = true := by
      rw [List.isEmpty_iff, RuleList.invalidRules_eq_nil_iff]
      exact malformed
    rw [audit, if_pos empty, eq_comm, List.eq_nil_iff_forall_not_mem]
    intro key isSource
    exact malformed (hasMalformed_buildRules_iff.mpr ⟨key, mem_invalidSources_iff.mp isSource⟩)

end Dataset

/-- That an audit names the guilty trackers in the order of their keys, and that every malformed
rule of the list comes from a place of one of them. -/
structure AuditReport.Blames (dataset : Dataset) (unprotected : Option (List String))
    (report : AuditReport) : Prop where
  increasing : report.sources.Pairwise (· < ·)
  sources : ∀ key, key ∈ report.sources ↔ dataset.IsGuilty key
  anyUnprotected : report.sources = (dataset.audit none).sources
  none_iff : report.sources = [] ↔ report.invalid = []
  rules : dataset.buildRules { unprotected } =
    dataset.keyedPlacements.flatMap dataset.keyedRules ++ Overrides.toRules { unprotected }
  origin : ∀ index ∈ report.invalid,
    ∃! key, key ∈ report.sources ∧
      ∃ placement,
        FallsInto dataset.keyedRules dataset.keyedPlacements index (key, placement)

/-- Whatever is unprotected, an audit blames the guilty trackers and no others. -/
theorem Dataset.blames_audit (dataset : Dataset) (unprotected : Option (List String)) :
    AuditReport.Blames dataset unprotected (dataset.audit unprotected) where
  increasing := by
    rw [sources_audit]
    exact pairwise_invalidSources none
  sources := by
    intro key
    rw [sources_audit]
    exact mem_invalidSources_iff
  anyUnprotected := by
    rw [sources_audit, sources_audit]
  none_iff := by
    have invalid : (dataset.audit unprotected).invalid = [] ↔ ¬ ∃ key, dataset.IsGuilty key := by
      rw [← hasMalformed_buildRules_iff]
      exact RuleList.invalidRules_eq_nil_iff
    rw [sources_audit, invalid, List.eq_nil_iff_forall_not_mem, not_exists]
    exact forall_congr' fun key => not_congr mem_invalidSources_iff
  rules := dataset.buildRules_eq_keyedRules { unprotected }
  origin := by
    intro index isInvalid
    obtain ⟨rule, found, malformed⟩ := RuleList.mem_invalidRules.mp isInvalid
    have inPlacements :
        (dataset.keyedPlacements.flatMap dataset.keyedRules)[index]? = some rule := by
      rw [buildRules_eq_keyedRules] at found
      by_cases inside :
          index < (dataset.keyedPlacements.flatMap dataset.keyedRules).length
      · rwa [List.getElem?_append_left inside] at found
      · rw [List.getElem?_append_right (Nat.le_of_not_lt inside)] at found
        have isOverride := List.mem_of_getElem? found
        exact absurd ⟨rule, isOverride, malformed⟩
          (Overrides.not_hasMalformed_toRules unprotected)
    obtain ⟨⟨key, placement⟩, falls, member⟩ := exists_fallsInto inPlacements
    have guilty : dataset.IsGuilty key :=
      isGuilty_iff_exists_placement.mpr
        ⟨(key, placement), falls.mem, rfl, rule, member, malformed⟩
    refine ⟨key, ⟨?_, placement, falls⟩, ?_⟩
    · rw [sources_audit]
      exact mem_invalidSources_iff.mpr guilty
    · intro other ⟨_, otherPlacement, fallsToo⟩
      exact congrArg Prod.fst (fallsToo.eq falls)

end ContentBlocking
