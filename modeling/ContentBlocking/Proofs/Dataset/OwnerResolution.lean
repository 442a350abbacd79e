import ContentBlocking.Dataset.Wire
import ContentBlocking.Proofs.SortedMap

/-!
# Owners are settled once

When a dataset is put together, each of its trackers gets a reference to its owner, and everything
that asks for the owner later looks at the reference only. It is right because it has been made from
the entities of the same dataset, whatever the trackers had before, and nothing else about them is
changed.
-/

namespace ContentBlocking

/-- The owner of the tracker has a name, but not one of the entities. -/
def Tracker.hasUnknownOwner (tracker : Tracker) (entities : SortedMap Entity) : Bool :=
  tracker.ownerName.any fun name => name ∉ entities.keys

namespace Dataset

variable {entities : SortedMap Entity} {tracker : Tracker} {name : String}

/-! ## One tracker -/

/-- An owner is resolved exactly if it is named and there is an entity of that name. -/
theorem resolvedOwner_resolveOwner_iff :
    (resolveOwner entities tracker).resolvedOwner = some name ↔
      tracker.ownerName = some name ∧ name ∈ entities.keys := by
  rw [resolveOwner, Option.filter_eq_some_iff, SortedMap.contains_iff]

theorem resolvedOwner_resolveOwner_eq_none_iff :
    (resolveOwner entities tracker).resolvedOwner = none ↔
      ∀ name, tracker.ownerName = some name → name ∉ entities.keys := by
  rw [Option.eq_none_iff_forall_ne_some]
  simp only [ne_eq, resolvedOwner_resolveOwner_iff, not_and]

theorem ownerUnresolved_resolveOwner (entities : SortedMap Entity) (tracker : Tracker) :
    ownerUnresolved (resolveOwner entities tracker) = tracker.hasUnknownOwner entities := by
  have sameOwner : (resolveOwner entities tracker).ownerName = tracker.ownerName := rfl
  rw [ownerUnresolved, sameOwner, Tracker.hasUnknownOwner]
  cases named : tracker.ownerName with
  | none => rfl
  | some name =>
      have unresolved : (resolveOwner entities tracker).resolvedOwner = none ↔
          name ∉ entities.keys := by
        simp [resolvedOwner_resolveOwner_eq_none_iff, named]
      rw [Option.isSome_some, Bool.true_and, Option.any_some, Bool.eq_iff_iff,
        Option.isNone_iff_eq_none, decide_eq_true_iff]
      exact unresolved

/-! ## All trackers -/

section Parts

variable {trackers : SortedMap Tracker} {domains : SortedMap String}
  {cnames : Option (SortedMap String)}

theorem exists_of_mem_trackers_ofParts
    (member : tracker ∈ (ofParts trackers entities domains cnames).trackers.values) :
    ∃ given, tracker = resolveOwner entities given := by
  rw [ofParts, SortedMap.values_mapEntries] at member
  obtain ⟨given, _, same⟩ := List.mem_map.mp member
  exact ⟨given, same.symm⟩

/-- The statistics count the trackers whose owner has a name but no entity. -/
theorem unresolvedOwners_stats_ofParts :
    (ofParts trackers entities domains cnames).stats.unresolvedOwners =
      trackers.values.countP fun tracker => tracker.hasUnknownOwner entities := by
  rw [stats, ofParts, SortedMap.values_mapEntries, List.countP_map]
  exact List.countP_congr fun tracker _ => by
    rw [Function.comp_apply, ownerUnresolved_resolveOwner]

/-- There is one event for each owner without an entity. -/
theorem length_ownerEvents (trackers : SortedMap Tracker) (entities : SortedMap Entity) :
    (ownerEvents trackers entities).length =
      trackers.values.countP fun tracker => tracker.hasUnknownOwner entities := by
  rw [ownerEvents, List.length_filterMap_eq_countP, SortedMap.values, List.countP_map]
  apply List.countP_congr
  intro entry _
  simp [Tracker.hasUnknownOwner, Option.isSome_filter, ← SortedMap.contains_iff]

/-- Looking up the owners once more changes nothing. -/
theorem ofParts_ofParts (trackers : SortedMap Tracker) (entities : SortedMap Entity)
    (domains : SortedMap String) (cnames : Option (SortedMap String)) :
    ofParts (ofParts trackers entities domains cnames).trackers entities domains cnames =
      ofParts trackers entities domains cnames := by
  have again : ∀ tracker, resolveOwner entities (resolveOwner entities tracker) =
      resolveOwner entities tracker :=
    fun _ => rfl
  have trackersAgain : (ofParts (ofParts trackers entities domains cnames).trackers entities domains
      cnames).trackers = (ofParts trackers entities domains cnames).trackers := by
    apply SortedMap.ext_get?
    intro key
    simp only [ofParts, SortedMap.get?_mapEntries, Option.map_map, Function.comp_def, again]
  exact congrArg (Dataset.mk · entities domains cnames) trackersAgain

end Parts

/-! ## What asks for the reference -/

theorem relatedDomains?_of_resolvedOwner (dataset : Dataset) {entity : Entity}
    (resolved : tracker.resolvedOwner = some name) (found : dataset.entities.get? name = some entity) :
    dataset.relatedDomains? tracker = entity.domains := by
  rw [relatedDomains?, entityOf?, resolved, Option.bind_some, found, Option.bind_some]

/-- A tracker without a resolved owner has no related domains. -/
theorem relatedDomains?_of_unresolved (dataset : Dataset)
    (unresolved : tracker.resolvedOwner = none) :
    dataset.relatedDomains? tracker = none := by
  rw [relatedDomains?, entityOf?, unresolved, Option.bind_none, Option.bind_none]

/-- That a dataset is put together from parts, with each owner settled: the references, the answers
that depend on them, the counts, and what has not been touched. -/
structure SettlesOwners (trackers : SortedMap Tracker) (entities : SortedMap Entity)
    (domains : SortedMap String) (cnames : Option (SortedMap String)) (dataset : Dataset) :
    Prop where
  resolvedOwner : ∀ tracker ∈ dataset.trackers.values, ∀ name,
    tracker.resolvedOwner = some name ↔ tracker.ownerName = some name ∧ name ∈ entities.keys
  related : ∀ tracker ∈ dataset.trackers.values, ∀ name entity,
    tracker.ownerName = some name → entities.get? name = some entity →
      dataset.relatedDomains? tracker = entity.domains ∧
        ∀ domain, dataset.relatedDomains? (tracker.withDomain domain) = entity.domains
  unrelated : ∀ tracker ∈ dataset.trackers.values,
    (∀ name, tracker.ownerName = some name → name ∉ entities.keys) →
      dataset.relatedDomains? tracker = none ∧
        ∀ domain, dataset.relatedDomains? (tracker.withDomain domain) = none
  unresolvedOwners : dataset.stats.unresolvedOwners =
    trackers.values.countP fun tracker => tracker.hasUnknownOwner entities
  events : (ownerEvents trackers entities).length = dataset.stats.unresolvedOwners
  keys : dataset.trackers.keys = trackers.keys
  fields : ∀ key tracker, trackers.get? key = some tracker →
    ∃ resolved, dataset.trackers.get? key = some { tracker with resolvedOwner := resolved }
  entities : dataset.entities = entities
  domains : dataset.domains = domains
  cnames : dataset.cnames = cnames
  again : ofParts dataset.trackers dataset.entities dataset.domains dataset.cnames = dataset

/-- Whatever references the given trackers have, the owners are settled by the entities. -/
theorem settlesOwners_ofParts (trackers : SortedMap Tracker) (entities : SortedMap Entity)
    (domains : SortedMap String) (cnames : Option (SortedMap String)) :
    SettlesOwners trackers entities domains cnames (ofParts trackers entities domains cnames) where
  resolvedOwner := by
    intro tracker member name
    obtain ⟨given, rfl⟩ := exists_of_mem_trackers_ofParts member
    exact resolvedOwner_resolveOwner_iff
  related := by
    intro tracker member name entity named found
    obtain ⟨given, rfl⟩ := exists_of_mem_trackers_ofParts member
    have resolved : (resolveOwner entities given).resolvedOwner = some name :=
      resolvedOwner_resolveOwner_iff.mpr ⟨named, SortedMap.mem_keys_of_get? found⟩
    have owned := relatedDomains?_of_resolvedOwner (ofParts trackers entities domains cnames)
      resolved found
    exact ⟨owned, fun _ => owned⟩
  unrelated := by
    intro tracker member unknown
    obtain ⟨given, rfl⟩ := exists_of_mem_trackers_ofParts member
    have unresolved : (resolveOwner entities given).resolvedOwner = none :=
      resolvedOwner_resolveOwner_eq_none_iff.mpr unknown
    have alone := relatedDomains?_of_unresolved (ofParts trackers entities domains cnames)
      unresolved
    exact ⟨alone, fun _ => alone⟩
  unresolvedOwners := unresolvedOwners_stats_ofParts
  events := by rw [length_ownerEvents, unresolvedOwners_stats_ofParts]
  keys := SortedMap.keys_mapEntries _ _
  fields := by
    intro key tracker found
    refine ⟨tracker.ownerName.filter entities.contains, ?_⟩
    rw [ofParts, SortedMap.get?_mapEntries, found]
    rfl
  entities := rfl
  domains := rfl
  cnames := rfl
  again := ofParts_ofParts trackers entities domains cnames

end Dataset

end ContentBlocking
