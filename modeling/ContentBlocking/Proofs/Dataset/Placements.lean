import Mathlib.Logic.Basic
import ContentBlocking.Compile.Build

/-!
# Where trackers are placed

A dataset compiles each of its trackers on its own domain, and once more for every alias behind
which it is found. `Dataset.placements` lists all these places in one order, so that the rule list
without overrides is one list after another, each with the rules of one place.
-/

namespace ContentBlocking

/-- A tracker with the domain on which it is compiled, and the load types for which. -/
structure Placement where
  tracker : Tracker
  loadTypes : List LoadType

namespace Dataset

/-- The trackers on their own domains, and then those behind aliases on the aliases. -/
def placements (dataset : Dataset) : List Placement :=
  dataset.trackers.values.map (fun tracker => ⟨tracker, trackerLoadTypes⟩) ++
    dataset.aliases.filterMap fun entry =>
      (dataset.findTracker? entry.2).map fun tracker =>
        ⟨tracker.withDomain entry.1, cnameLoadTypes⟩

def placedRules (dataset : Dataset) (placement : Placement) : List Rule :=
  (dataset.compileTracker placement.tracker placement.loadTypes).rules

/-- Without overrides, a rule list consists of the rules of the placed trackers, one after the
other. -/
theorem buildRules_eq_flatMap (dataset : Dataset) :
    dataset.buildRules {} = dataset.placements.flatMap dataset.placedRules := by
  have trackers : segmentRules dataset.compiledTrackers =
      (dataset.trackers.values.map fun tracker =>
        Placement.mk tracker trackerLoadTypes).flatMap dataset.placedRules := by
    rw [segmentRules, compiledTrackers, List.flatMap_map, List.flatMap_map]
    rfl
  have aliases : segmentRules dataset.compiledAliases =
      (dataset.aliases.filterMap fun entry =>
        (dataset.findTracker? entry.2).map fun tracker =>
          Placement.mk (tracker.withDomain entry.1) cnameLoadTypes).flatMap
        dataset.placedRules := by
    rw [segmentRules, compiledAliases]
    induction dataset.aliases with
    | nil => rfl
    | cons entry rest inductionHypothesis =>
        cases found : dataset.findTracker? entry.2 with
        | none => simpa [compileAlias, found] using inductionHypothesis
        | some tracker =>
            simpa [compileAlias, found, placedRules] using inductionHypothesis
  have segments : dataset.buildRules {} =
      segmentRules dataset.compiledTrackers ++ segmentRules dataset.compiledAliases := by
    have noOverrides : Overrides.toRules {} = [] := rfl
    simp [buildRules, build, noOverrides]
  rw [segments, trackers, aliases, placements, List.flatMap_append]

/-! ## Keys -/

/-- The places of all trackers, each with the key of its tracker. -/
def keyedPlacements (dataset : Dataset) : List (String × Placement) :=
  dataset.trackers.entries.map (fun entry => (entry.1, ⟨entry.2, trackerLoadTypes⟩)) ++
    dataset.aliases.filterMap fun entry =>
      (dataset.findEntry? entry.2).map fun found =>
        (found.1, ⟨found.2.withDomain entry.1, cnameLoadTypes⟩)

theorem map_keyedPlacements (dataset : Dataset) :
    dataset.keyedPlacements.map Prod.snd = dataset.placements := by
  rw [keyedPlacements, placements, List.map_append, List.map_map, List.map_filterMap,
    SortedMap.values, List.map_map]
  congr 2
  funext entry
  rw [findTracker?, Option.map_map, Option.map_map]
  rfl

theorem exists_keyedPlacement_iff {dataset : Dataset} {property : String × Placement → Prop} :
    (∃ keyed ∈ dataset.keyedPlacements, property keyed) ↔
      (∃ entry ∈ dataset.trackers.entries, property (entry.1, ⟨entry.2, trackerLoadTypes⟩)) ∨
        ∃ entry ∈ dataset.aliases, ∃ found ∈ dataset.findEntry? entry.2,
          property (found.1, ⟨found.2.withDomain entry.1, cnameLoadTypes⟩) := by
  simp only [keyedPlacements, List.mem_append, List.mem_map, List.mem_filterMap,
    Option.map_eq_some_iff, or_and_right, exists_or]
  constructor
  · intro either
    rcases either with ⟨keyed, ⟨entry, member, rfl⟩, holds⟩ |
      ⟨keyed, ⟨entry, member, found, isFound, rfl⟩, holds⟩
    · exact Or.inl ⟨entry, member, holds⟩
    · exact Or.inr ⟨entry, member, found, isFound, holds⟩
  · intro either
    rcases either with ⟨entry, member, holds⟩ | ⟨entry, member, found, isFound, holds⟩
    · exact Or.inl ⟨_, ⟨entry, member, rfl⟩, holds⟩
    · exact Or.inr ⟨_, ⟨entry, member, found, isFound, rfl⟩, holds⟩

/-- A placed tracker stands on its own domain, or on an alias behind which it is found. -/
theorem exists_placement_iff {dataset : Dataset} {property : Placement → Prop} :
    (∃ placement ∈ dataset.placements, property placement) ↔
      (∃ tracker ∈ dataset.trackers.values, property ⟨tracker, trackerLoadTypes⟩) ∨
        ∃ entry ∈ dataset.aliases, ∃ tracker ∈ dataset.findTracker? entry.2,
          property ⟨tracker.withDomain entry.1, cnameLoadTypes⟩ := by
  have keyed := @exists_keyedPlacement_iff dataset fun keyed => property keyed.2
  rw [← map_keyedPlacements]
  simp only [List.mem_map, SortedMap.values, findTracker?, Option.mem_def,
    Option.map_eq_some_iff, exists_exists_and_eq_and]
  exact keyed

/-! ## Trackers behind aliases -/

/-- The search returns a tracker with the key under which it is stored. -/
theorem get?_of_findFrom {dataset : Dataset} {domain : List Char} {entry : String × Tracker}
    (found : dataset.findFrom domain = some entry) :
    dataset.trackers.get? entry.1 = some entry.2 := by
  fun_induction findFrom dataset domain with
  | case1 domain dotted tracker stored =>
      cases found
      exact stored
  | case2 domain dotted absent inductionHypothesis => exact inductionHypothesis found
  | case3 domain plain => cases found

/-- What is found for a host depends on the trackers only. -/
theorem findFrom_congr {dataset other : Dataset} (trackers : other.trackers = dataset.trackers)
    (host : List Char) :
    other.findFrom host = dataset.findFrom host := by
  fun_induction findFrom dataset host with
  | case1 host dotted tracker stored => rw [findFrom, dif_pos dotted, trackers, stored]
  | case2 host dotted absent inductionHypothesis =>
      rw [findFrom, dif_pos dotted, trackers, absent]
      exact inductionHypothesis
  | case3 host plain => rw [findFrom, dif_neg plain]

/-- Trackers are placed by themselves and by the aliases. -/
theorem placements_congr {dataset other : Dataset} (trackers : other.trackers = dataset.trackers)
    (cnames : other.cnames = dataset.cnames) :
    other.placements = dataset.placements := by
  have found : other.findTracker? = dataset.findTracker? := by
    funext host
    rw [findTracker?, findTracker?, findEntry?, findEntry?, findFrom_congr trackers]
  rw [placements, placements, aliases, aliases, trackers, cnames, found]

theorem mem_values_of_findTracker? {dataset : Dataset} {host : String} {tracker : Tracker}
    (found : dataset.findTracker? host = some tracker) :
    tracker ∈ dataset.trackers.values := by
  obtain ⟨entry, foundEntry, rfl⟩ := Option.map_eq_some_iff.mp found
  exact SortedMap.mem_values_of_get? (get?_of_findFrom foundEntry)

/-- A tracker keeps its rules wherever it is placed. -/
theorem exists_rules_eq_of_mem_placements {dataset : Dataset} {placement : Placement}
    (member : placement ∈ dataset.placements) :
    ∃ tracker ∈ dataset.trackers.values, placement.tracker.rules = tracker.rules := by
  rcases exists_placement_iff.mp ⟨placement, member, rfl⟩ with
    ⟨tracker, isTracker, same⟩ | ⟨entry, _, tracker, found, same⟩
  · exact ⟨tracker, isTracker, by rw [same]⟩
  · exact ⟨tracker, mem_values_of_findTracker? found, by rw [same]; rfl⟩

end Dataset

end ContentBlocking
