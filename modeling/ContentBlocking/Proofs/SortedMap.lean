import ContentBlocking.SortedMap

/-!
# Entries of sorted maps

Entries are what look-ups find. Of two insertions with the same key the later one counts, and others
change places. An insertion behind all entries only adds one.
-/

namespace ContentBlocking.SortedMap

variable {α β : Type}

theorem ext_entries {left right : SortedMap α} (same : left.entries = right.entries) :
    left = right := by
  cases left
  cases right
  cases same
  rfl

theorem lookup_of_mem {key : String} {value : α} {entries : List (String × α)}
    (sorted : entries.Pairwise fun first second => first.1 < second.1)
    (member : (key, value) ∈ entries) :
    lookup key entries = some value := by
  induction entries with
  | nil => cases member
  | cons entry entries inductionHypothesis =>
      obtain ⟨name, first⟩ := entry
      obtain ⟨above, restSorted⟩ := List.pairwise_cons.mp sorted
      rw [lookup]
      rcases List.mem_cons.mp member with same | inRest
      · cases same
        exact if_pos rfl
      · have apart : name ≠ key := by
          intro same
          have below : name < key := above (key, value) inRest
          exact String.lt_irrefl key (same ▸ below)
        rw [if_neg apart]
        exact inductionHypothesis restSorted inRest

/-- What is stored under a key is listed with it, and nothing else is. -/
theorem mem_entries_iff {map : SortedMap α} {key : String} {value : α} :
    (key, value) ∈ map.entries ↔ map.get? key = some value :=
  ⟨lookup_of_mem map.sorted, mem_of_lookup⟩

theorem mem_keys_of_get? {map : SortedMap α} {key : String} {value : α}
    (found : map.get? key = some value) :
    key ∈ map.keys :=
  List.mem_map_of_mem (f := Prod.fst) (mem_of_lookup found)

theorem mem_keys_iff {map : SortedMap α} {key : String} :
    key ∈ map.keys ↔ ∃ value, map.get? key = some value := by
  constructor
  · intro listed
    obtain ⟨⟨name, value⟩, member, rfl⟩ := List.mem_map.mp listed
    exact ⟨value, mem_entries_iff.mp member⟩
  · intro ⟨value, found⟩
    exact mem_keys_of_get? found

theorem contains_iff {map : SortedMap α} {key : String} :
    map.contains key = true ↔ key ∈ map.keys := by
  rw [contains, Option.isSome_iff_exists, mem_keys_iff]

theorem lookup_map (change : String → α → β) (key : String) (entries : List (String × α)) :
    lookup key (entries.map fun entry => (entry.1, change entry.1 entry.2)) =
      (lookup key entries).map (change key) := by
  induction entries with
  | nil => rfl
  | cons entry entries inductionHypothesis =>
      rw [List.map_cons, lookup, lookup, inductionHypothesis]
      by_cases here : entry.1 = key
      · rw [if_pos here, if_pos here, here, Option.map_some]
      · rw [if_neg here, if_neg here]

theorem get?_mapEntries (map : SortedMap α) (change : String → α → β) (key : String) :
    (map.mapEntries change).get? key = (map.get? key).map (change key) :=
  lookup_map change key map.entries

theorem keys_mapEntries (map : SortedMap α) (change : String → α → β) :
    (map.mapEntries change).keys = map.keys := by
  rw [keys, keys, mapEntries, List.map_map]
  rfl

theorem values_mapEntries (map : SortedMap α) (change : α → β) :
    (map.mapEntries fun _ value => change value).values = map.values.map change := by
  rw [values, values, mapEntries, List.map_map, List.map_map]
  rfl

theorem mapEntries_self (map : SortedMap α) : (map.mapEntries fun _ content => content) = map :=
  ext_entries (List.map_id _)

theorem insert_insert_same (map : SortedMap α) (key : String) (first second : α) :
    (map.insert key first).insert key second = map.insert key second := by
  apply ext_get?
  intro name
  rw [get?_insert, get?_insert, get?_insert]
  by_cases here : name = key
  · rw [if_pos here, if_pos here]
  · rw [if_neg here, if_neg here, if_neg here]

theorem insert_insert_comm (map : SortedMap α) {key other : String} (apart : key ≠ other)
    (first second : α) :
    (map.insert key first).insert other second = (map.insert other second).insert key first := by
  apply ext_get?
  intro name
  simp only [get?_insert]
  by_cases here : name = key
  · have there : name ≠ other := fun same => apart (here.symm.trans same)
    rw [if_neg there, if_pos here, if_pos here]
  · rw [if_neg here, if_neg here]

theorem insertEntry_last {key : String} (value : α) {entries : List (String × α)}
    (below : ∀ entry ∈ entries, entry.1 < key) :
    insertEntry key value entries = entries ++ [(key, value)] := by
  induction entries with
  | nil => rfl
  | cons entry entries inductionHypothesis =>
      obtain ⟨name, old⟩ := entry
      have first : name < key := below (name, old) List.mem_cons_self
      have notBefore : ¬ key < name := fun before =>
        String.lt_irrefl name (String.lt_trans first before)
      have notSame : key ≠ name := fun same => String.lt_irrefl name (same ▸ first)
      have others := inductionHypothesis fun entry member =>
        below entry (List.mem_cons_of_mem (name, old) member)
      rw [insertEntry, if_neg notBefore, if_neg notSame, others, List.cons_append]

end ContentBlocking.SortedMap
