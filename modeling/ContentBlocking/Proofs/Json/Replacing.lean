import ContentBlocking.Proofs.Json.Acceptance
import Mathlib.Logic.Relation

/-!
# Replacing a part of a value

A value can be replaced by another one if the decoder that looks at it accepts both alike. Then the
list, the map or the record around it can be replaced as well.
-/

namespace ContentBlocking.Json

variable {α β σ : Type}

/-- Whether a decoder that accepts a value accepts another one in its place. -/
def Replaceable (decode : Decoder α) (value other : Value) : Prop :=
  ∀ ⦃meaning⦄, decode value = .ok meaning → decode other = .ok meaning

/-- Whether a field for which a value can be stored can be stored in the same way for another. -/
def RecordField.Replaceable (field : RecordField α) (value other : Value) : Prop :=
  ∀ ⦃record next⦄, field.store value record = .ok next → field.store other record = .ok next

/-! ## Fields -/

theorem replaceable_field {name : String} {required : Bool} {decode : Decoder β} {put : α → β → α}
    {value other : Value} (replaceable : Replaceable decode value other) :
    RecordField.Replaceable
      ⟨name, required, fun value record => (decode value).map (put record)⟩ value other := by
  intro record next stored
  obtain ⟨meaning, decoded, same⟩ := Decoded.map_eq_ok.mp stored
  exact Decoded.map_eq_ok.mpr ⟨meaning, replaceable decoded, same⟩

/-- A value that is not `null` is replaced in an optional place as it is in any other. -/
theorem replaceable_optional {decode : Decoder α} {value other : Value}
    (present : optional decode value = (decode value).map some)
    (otherPresent : optional decode other = (decode other).map some)
    (replaceable : Replaceable decode value other) : Replaceable (optional decode) value other := by
  intro meaning decoded
  rw [present] at decoded
  rw [otherPresent]
  obtain ⟨content, contentDecoded, rfl⟩ := Decoded.map_eq_ok.mp decoded
  exact Decoded.map_eq_ok.mpr ⟨content, replaceable contentDecoded, rfl⟩

/-! ## Lists -/

theorem mapM_replace {decode : Decoder α} {value other : Value} {before after : List Value}
    {meanings : List α} (replaceable : Replaceable decode value other)
    (decoded : (before ++ value :: after).mapM decode = .ok meanings) :
    (before ++ other :: after).mapM decode = .ok meanings := by
  rw [List.mapM_append, Decoded.bind_eq_ok] at decoded ⊢
  obtain ⟨first, beforeDecoded, rest⟩ := decoded
  refine ⟨first, beforeDecoded, ?_⟩
  rw [List.mapM_cons] at rest ⊢
  obtain ⟨last, lastDecoded, same⟩ := Decoded.bind_eq_ok.mp rest
  obtain ⟨middle, valueDecoded, afterDecoded⟩ := Decoded.bind_eq_ok.mp lastDecoded
  exact Decoded.bind_eq_ok.mpr
    ⟨last, Decoded.bind_eq_ok.mpr ⟨middle, replaceable valueDecoded, afterDecoded⟩, same⟩

theorem replaceable_list_item {decode : Decoder α} {value other : Value} {before after : List Value}
    {ending : Ending} (replaceable : Replaceable decode value other) :
    Replaceable (list decode) (.array (before ++ value :: after) ending)
      (.array (before ++ other :: after) ending) := by
  intro meaning decoded
  obtain ⟨meanings, itemsDecoded, rest⟩ := Decoded.bind_eq_ok.mp decoded
  exact Decoded.bind_eq_ok.mpr ⟨meanings, mapM_replace replaceable itemsDecoded, rest⟩

/-! ## Maps and records -/

/-- A member can be replaced by one that is taken in the same way. -/
theorem foldlM_replace {take : σ → Member → Decoded σ} {member other : Member}
    (replaces : ∀ {state next}, take state member = .ok next → take state other = .ok next)
    {before after : List Member} {state next : σ}
    (taken : (before ++ member :: after).foldlM take state = .ok next) :
    (before ++ other :: after).foldlM take state = .ok next := by
  rw [List.foldlM_append, Decoded.bind_eq_ok] at taken ⊢
  obtain ⟨between, beforeTaken, rest⟩ := taken
  rw [List.foldlM_cons, Decoded.bind_eq_ok] at rest
  obtain ⟨beyond, memberTaken, afterTaken⟩ := rest
  refine ⟨between, beforeTaken, ?_⟩
  rw [List.foldlM_cons, Decoded.bind_eq_ok]
  exact ⟨beyond, replaces memberTaken, afterTaken⟩

theorem takeEntry_replace {decode : Decoder α} {key : WrittenText} {value other : Value}
    (replaceable : Replaceable decode value other) {state next : SortedMap α}
    (taken : takeEntry decode state (key, value) = .ok next) :
    takeEntry decode state (key, other) = .ok next := by
  obtain ⟨name, decoded, named, valueDecoded, inserted⟩ := takeEntry_eq_ok.mp taken
  exact takeEntry_eq_ok.mpr ⟨name, decoded, named, replaceable valueDecoded, inserted⟩

theorem replaceable_map_member {decode : Decoder α} {key : WrittenText} {value other : Value}
    {before after : List Member} {ending : Ending} (replaceable : Replaceable decode value other) :
    Replaceable (map decode) (.object (before ++ (key, value) :: after) ending)
      (.object (before ++ (key, other) :: after) ending) := by
  intro meaning decoded
  obtain ⟨whole, taken, rest⟩ := Decoded.bind_eq_ok.mp decoded
  rw [readEntries_eq_foldlM] at taken
  have replaced := foldlM_replace (takeEntry_replace replaceable) taken
  rw [← readEntries_eq_foldlM] at replaced
  exact Decoded.bind_eq_ok.mpr ⟨whole, replaced, rest⟩

theorem takeMember_replace {fields : List (RecordField α)} {key : WrittenText} {value other : Value}
    (replaceable : ∀ field ∈ fields, key.decode = .ok field.name → field.Replaceable value other)
    (whole : value.fault? = none → other.fault? = none)
    {state next : List String × α} (taken : takeMember fields state (key, value) = .ok next) :
    takeMember fields state (key, other) = .ok next := by
  rw [takeMember_eq_ok] at taken ⊢
  cases taken with
  | unknown named unknown sound => exact .unknown named unknown (whole sound)
  | @known _ _ _ _ name field named known fresh stored =>
      have sameName : field.name = name := by simpa using List.find?_some known
      have fieldReplaceable := replaceable field (List.mem_of_find?_eq_some known)
        (named.trans (congrArg Except.ok sameName.symm))
      exact .known named known fresh (fieldReplaceable stored)

/-- What may replace a value in every field of a name may replace it in a record. -/
theorem replaceable_record_member {name : String} {fields : List (RecordField α)} {blank : α}
    {key : WrittenText} {value other : Value} {before after : List Member} {ending : Ending}
    (replaceable : ∀ field ∈ fields, key.decode = .ok field.name → field.Replaceable value other)
    (whole : value.fault? = none → other.fault? = none) :
    Replaceable (record name fields blank) (.object (before ++ (key, value) :: after) ending)
      (.object (before ++ (key, other) :: after) ending) := by
  intro meaning decoded
  obtain ⟨filled, taken, rest⟩ := Decoded.bind_eq_ok.mp decoded
  rw [readMembers_eq_foldlM] at taken
  have replaced := foldlM_replace (takeMember_replace replaceable whole) taken
  rw [← readMembers_eq_foldlM] at replaced
  exact Decoded.bind_eq_ok.mpr ⟨filled, replaced, rest⟩

theorem readItems_replace {expected : String} {ending : Ending} {value other : Value}
    {after : List Value} {meaning : α} (before : List Value) :
    ∀ (index : Nat) (fields : List (RecordField α)) (record : α),
      (∀ field, fields[before.length]? = some field → field.Replaceable value other) →
      readItems expected ending index fields record (before ++ value :: after) = .ok meaning →
        readItems expected ending index fields record (before ++ other :: after) = .ok meaning := by
  induction before with
  | nil =>
      intro index fields record replaceable taken
      cases fields with
      | nil => cases taken
      | cons field fields =>
          obtain ⟨next, stored, rest⟩ := Decoded.bind_eq_ok.mp taken
          exact Decoded.bind_eq_ok.mpr ⟨next, replaceable field rfl stored, rest⟩
  | cons first before inductionHypothesis =>
      intro index fields record replaceable taken
      cases fields with
      | nil => cases taken
      | cons field fields =>
          obtain ⟨next, stored, rest⟩ := Decoded.bind_eq_ok.mp taken
          have replaced := inductionHypothesis (index + 1) fields next replaceable rest
          exact Decoded.bind_eq_ok.mpr ⟨next, stored, replaced⟩

theorem replaceable_record_item {name : String} {fields : List (RecordField α)} {blank : α}
    {value other : Value} {before after : List Value} {ending : Ending}
    (replaceable : ∀ field, fields[before.length]? = some field → field.Replaceable value other) :
    Replaceable (record name fields blank) (.array (before ++ value :: after) ending)
      (.array (before ++ other :: after) ending) :=
  fun _ decoded => readItems_replace before 0 fields blank replaceable decoded

/-! ## Texts -/

/-- Whether two texts spell values of which the second comes from the first by changes of a kind. -/
def ChangesText (change : Value → Value → Prop) (text other : List Symbol) : Prop :=
  ∃ value otherValue, Spells text (.spaced value) ∧ Spells other (.spaced otherValue) ∧
    Relation.ReflTransGen change value otherValue

/-- A decoder accepts a changed text if it accepts each single change of the value. -/
theorem decodeText_changed {decode : Decoder α} {change : Value → Value → Prop}
    (replaceable : ∀ {value other}, change value other → Replaceable decode value other)
    {text other : List Symbol} {meaning : α} (changed : ChangesText change text other)
    (decoded : decodeText decode text = .ok meaning) : decodeText decode other = .ok meaning := by
  obtain ⟨value, otherValue, spelled, otherSpelled, changes⟩ := changed
  rw [decodeText_of_spells spelled] at decoded
  rw [decodeText_of_spells otherSpelled]
  clear otherSpelled
  induction changes with
  | refl => exact decoded
  | tail _ step inductionHypothesis => exact replaceable step inductionHypothesis

end ContentBlocking.Json
