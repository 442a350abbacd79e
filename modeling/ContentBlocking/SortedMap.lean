/-!
# Sorted maps

A finite map from strings is a list of entries in strictly increasing key order. Keys are
compared by code point, so each content has exactly one representation and equality of maps is
equality of their entry lists. Main statements: `get?_insert` says what an insertion changes, and
`ext_get?` that a map is determined by its lookups.
-/

namespace ContentBlocking

/-- A finite map whose entries are listed in strictly increasing key order. -/
structure SortedMap (α : Type) where
  entries : List (String × α)
  sorted : entries.Pairwise (fun first second => first.1 < second.1)

namespace SortedMap

variable {α β : Type}

instance [DecidableEq α] : DecidableEq (SortedMap α) := fun left right =>
  decidable_of_iff (left.entries = right.entries)
    ⟨fun same => by cases left; cases right; cases same; rfl, fun same => by rw [same]⟩

instance [Repr α] : Repr (SortedMap α) where
  reprPrec map precedence := reprPrec map.entries precedence

def empty : SortedMap α := ⟨[], List.Pairwise.nil⟩

instance : EmptyCollection (SortedMap α) := ⟨empty⟩

def keys (map : SortedMap α) : List String := map.entries.map Prod.fst

def values (map : SortedMap α) : List α := map.entries.map Prod.snd

def size (map : SortedMap α) : Nat := map.entries.length

/-- The value of a key in a list of entries, the first one if there are several. -/
def lookup (key : String) : List (String × α) → Option α
  | [] => none
  | (name, value) :: rest => if name = key then some value else lookup key rest

def get? (map : SortedMap α) (key : String) : Option α := lookup key map.entries

def contains (map : SortedMap α) (key : String) : Bool := (map.get? key).isSome

/-- Puts an entry at its place in an ordered list of entries; an entry with the same key is
replaced. -/
def insertEntry (key : String) (value : α) : List (String × α) → List (String × α)
  | [] => [(key, value)]
  | (name, old) :: rest =>
      if key < name then (key, value) :: (name, old) :: rest
      else if key = name then (key, value) :: rest
      else (name, old) :: insertEntry key value rest

theorem mem_insertEntry {key : String} {value : α} {entry : String × α}
    {entries : List (String × α)} (h : entry ∈ insertEntry key value entries) :
    entry = (key, value) ∨ entry ∈ entries := by
  induction entries with
  | nil => simpa [insertEntry] using h
  | cons head rest ih =>
      obtain ⟨name, old⟩ := head
      rw [insertEntry] at h
      split at h
      · simpa using h
      · split at h
        · rcases List.mem_cons.1 h with h | h
          · exact Or.inl h
          · exact Or.inr (List.mem_cons_of_mem _ h)
        · rcases List.mem_cons.1 h with h | h
          · exact Or.inr (h ▸ List.mem_cons_self)
          · rcases ih h with h | h
            · exact Or.inl h
            · exact Or.inr (List.mem_cons_of_mem _ h)

theorem pairwise_insertEntry {key : String} {value : α} {entries : List (String × α)}
    (h : entries.Pairwise (fun first second => first.1 < second.1)) :
    (insertEntry key value entries).Pairwise (fun first second => first.1 < second.1) := by
  induction entries with
  | nil => simp [insertEntry]
  | cons head rest ih =>
      obtain ⟨name, old⟩ := head
      obtain ⟨above, ordered⟩ := List.pairwise_cons.1 h
      rw [insertEntry]
      split
      · rename_i lower
        refine List.pairwise_cons.2 ⟨?_, h⟩
        intro entry mem
        rcases List.mem_cons.1 mem with rfl | mem
        · exact lower
        · exact String.lt_trans lower (above entry mem)
      · rename_i notLower
        split
        · rename_i same
          subst same
          exact List.pairwise_cons.2 ⟨above, ordered⟩
        · rename_i different
          refine List.pairwise_cons.2 ⟨?_, ih ordered⟩
          intro entry mem
          rcases mem_insertEntry mem with rfl | mem
          · exact Std.lt_of_le_of_ne (String.not_lt.1 notLower) (Ne.symm different)
          · exact above entry mem

def insert (map : SortedMap α) (key : String) (value : α) : SortedMap α :=
  ⟨insertEntry key value map.entries, pairwise_insertEntry map.sorted⟩

def erase (map : SortedMap α) (key : String) : SortedMap α :=
  ⟨map.entries.filter (fun entry => entry.1 ≠ key), map.sorted.filter _⟩

/-- The map of a list of entries, of which a later one replaces an earlier one with its key. -/
def ofList (entries : List (String × α)) : SortedMap α :=
  entries.foldl (fun map entry => map.insert entry.1 entry.2) empty

/-- The map with every value replaced by a function of its key and itself. -/
def mapEntries (map : SortedMap α) (f : String → α → β) : SortedMap β :=
  ⟨map.entries.map (fun entry => (entry.1, f entry.1 entry.2)),
    List.pairwise_map.2 map.sorted⟩

def agree (same : α → α → Bool) (left right : SortedMap α) : Bool :=
  left.keys = right.keys && (left.values.zip right.values).all (fun pair => same pair.1 pair.2)

/-! ## Lookups -/

theorem lookup_insertEntry (key name : String) (value : α) (entries : List (String × α)) :
    lookup name (insertEntry key value entries) =
      if name = key then some value else lookup name entries := by
  induction entries with
  | nil => simp [insertEntry, lookup, eq_comm]
  | cons head rest ih =>
      obtain ⟨first, old⟩ := head
      rw [insertEntry]
      split
      · simp [lookup, eq_comm]
      · split
        · rename_i same
          by_cases h : key = name
          · simp [lookup, h]
          · simp [lookup, h, ← same, Ne.symm h]
        · rename_i different
          by_cases h : name = key
          · subst h
            simp [lookup, ih, Ne.symm different]
          · simp [lookup, ih, h]

theorem get?_insert (map : SortedMap α) (key name : String) (value : α) :
    (map.insert key value).get? name = if name = key then some value else map.get? name :=
  lookup_insertEntry key name value map.entries

theorem mem_of_lookup {key : String} {value : α} {entries : List (String × α)}
    (found : lookup key entries = some value) : (key, value) ∈ entries := by
  induction entries with
  | nil => cases found
  | cons head rest ih =>
      obtain ⟨name, first⟩ := head
      rw [lookup] at found
      split at found
      · rename_i same
        cases found
        exact same ▸ List.mem_cons_self
      · exact List.mem_cons_of_mem _ (ih found)

theorem mem_values_of_get? {map : SortedMap α} {key : String} {value : α}
    (found : map.get? key = some value) : value ∈ map.values :=
  List.mem_map_of_mem (mem_of_lookup found)

theorem lookup_eq_none {name : String} {entries : List (String × α)}
    (h : ∀ entry ∈ entries, name < entry.1) : lookup name entries = none := by
  induction entries with
  | nil => rfl
  | cons head rest ih =>
      have above := h head List.mem_cons_self
      have apart : ¬ head.1 = name := fun same => String.lt_irrefl _ (same ▸ above)
      simp only [lookup, apart, if_false]
      exact ih fun entry mem => h entry (List.mem_cons_of_mem _ mem)

theorem entries_ext {left right : List (String × α)}
    (leftSorted : left.Pairwise (fun first second => first.1 < second.1))
    (rightSorted : right.Pairwise (fun first second => first.1 < second.1))
    (same : ∀ name, lookup name left = lookup name right) : left = right := by
  induction left generalizing right with
  | nil =>
      cases right with
      | nil => rfl
      | cons head rest => simpa [lookup] using same head.1
  | cons first rest ih =>
      obtain ⟨firstAbove, restSorted⟩ := List.pairwise_cons.1 leftSorted
      cases right with
      | nil => simpa [lookup] using same first.1
      | cons second others =>
          obtain ⟨secondAbove, othersSorted⟩ := List.pairwise_cons.1 rightSorted
          have atFirst := same first.1
          have atSecond := same second.1
          simp only [lookup, if_true] at atFirst atSecond
          have keyEq : first.1 = second.1 := by
            by_cases lower : first.1 < second.1
            · rw [if_neg (fun h => String.lt_irrefl _ (h ▸ lower)),
                lookup_eq_none fun entry mem => String.lt_trans lower (secondAbove entry mem)]
                at atFirst
              cases atFirst
            · by_cases higher : second.1 < first.1
              · rw [if_neg (fun h => String.lt_irrefl _ (h ▸ higher)),
                  lookup_eq_none fun entry mem => String.lt_trans higher (firstAbove entry mem)]
                  at atSecond
                cases atSecond
              · exact String.le_antisymm (String.not_lt.1 higher) (String.not_lt.1 lower)
          rw [if_pos keyEq.symm] at atFirst
          have headEq : first = second := Prod.ext keyEq (Option.some.inj atFirst)
          subst headEq
          congr 1
          refine ih restSorted othersSorted fun name => ?_
          have atName := same name
          by_cases h : first.1 = name
          · rw [lookup_eq_none fun entry mem => h ▸ firstAbove entry mem,
              lookup_eq_none fun entry mem => h ▸ secondAbove entry mem]
          · simpa [lookup, h] using atName

/-- A map is determined by its lookups. -/
theorem ext_get? {left right : SortedMap α} (same : ∀ name, left.get? name = right.get? name) :
    left = right := by
  obtain ⟨leftEntries, leftSorted⟩ := left
  obtain ⟨rightEntries, rightSorted⟩ := right
  have := entries_ext leftSorted rightSorted same
  subst this
  rfl

end SortedMap

end ContentBlocking
