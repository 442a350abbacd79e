import ContentBlocking.Proofs.Json.MemberOrder
import ContentBlocking.Proofs.Json.Replacing
import ContentBlocking.Proofs.Json.RoundTrip

/-!
# Texts whose members are reordered

The members of an object may be written in any order. A decoder is steady if it does not notice;
every way to put decoders together gives a steady one again.
-/

namespace ContentBlocking.Json

variable {α β : Type}

/-- Whether the members of one object in a value have another order in another value, in which the
members with the same name keep theirs. -/
inductive Value.Rearranges : Value → Value → Prop
  | members {members others : List Member} {ending : Ending} :
      members.Perm others → SameOrder members others →
        Rearranges (.object members ending) (.object others ending)
  | item {before after : List Value} {value other : Value} {ending : Ending} :
      Rearranges value other →
        Rearranges (.array (before ++ value :: after) ending)
          (.array (before ++ other :: after) ending)
  | member {before after : List Member} {key : WrittenText} {value other : Value}
      {ending : Ending} :
      Rearranges value other →
        Rearranges (.object (before ++ (key, value) :: after) ending)
          (.object (before ++ (key, other) :: after) ending)

/-- Whether a text can be obtained from another one by reordering the members of its objects, each
time keeping the order of members with the same name. -/
def Reorders : List Symbol → List Symbol → Prop := ChangesText Value.Rearranges

/-- Whether what a decoder makes of a value does not depend on the order of members. -/
def Steady (decode : Decoder α) : Prop :=
  ∀ ⦃value other⦄, value.Rearranges other → Replaceable decode value other

/-- Whether what is stored in a field does not depend on the order of members. -/
def RecordField.Steady (field : RecordField α) : Prop :=
  ∀ ⦃value other⦄, value.Rearranges other → field.Replaceable value other

theorem Value.Rearranges.fault? {value other : Value} (rearranged : value.Rearranges other) :
    other.fault? = value.fault? := by
  cases rearranged <;> rfl

/-! ## Members that are exchanged -/

theorem sameOrder_swap {first second : Member} (apart : Apart first second) (rest : List Member) :
    SameOrder (first :: second :: rest) (second :: first :: rest) := by
  intro name
  have notBoth := apart name
  by_cases firstNamed : isNamed name first = true
  · have secondUnnamed : ¬ isNamed name second = true := fun named => notBoth ⟨firstNamed, named⟩
    simp [firstNamed, secondUnnamed]
  · simp [List.filter_cons, firstNamed]

theorem apart_ofString {name other : String} (apart : name ≠ other) (value otherValue : Value) :
    Apart (.ofString name, value) (.ofString other, otherValue) := by
  rintro candidate ⟨named, otherNamed⟩
  rw [isNamed_iff, decode_ofString] at named otherNamed
  exact apart ((Except.ok.inj named).trans (Except.ok.inj otherNamed).symm)

/-- The first two members of an object may change places if they have different names. -/
theorem rearranges_swap {name other : String} (apart : name ≠ other) (value otherValue : Value)
    (rest : List Member) (ending : Ending) :
    Value.Rearranges
      (.object ((.ofString name, value) :: (.ofString other, otherValue) :: rest) ending)
      (.object ((.ofString other, otherValue) :: (.ofString name, value) :: rest) ending) :=
  .members (.swap ..) (sameOrder_swap (apart_ofString apart value otherValue) rest)

/-! ## Plain values and choices -/

theorem steady_text : Steady text := by
  intro value other rearranged meaning decoded
  cases rearranged <;> exact absurd decoded mismatch_ne_ok

theorem steady_float : Steady float := by
  intro value other rearranged meaning decoded
  cases rearranged <;> exact absurd decoded mismatch_ne_ok

theorem steady_optional {decode : Decoder α} (steady : Steady decode) :
    Steady (optional decode) := by
  intro value other rearranged
  apply replaceable_optional _ _ (steady rearranged)
  · cases rearranged <;> rfl
  · cases rearranged <;> rfl

theorem eq_null_of_null {value : Value} (decoded : null value = .ok ()) : value = .word .null := by
  unfold null at decoded
  split at decoded
  · rfl
  · cases decoded
  · exact absurd decoded mismatch_ne_ok

theorem exists_bare_of_find {variants : List (String × α)} {name : String} {variant : Variant α}
    (found : Variants.find (variants.map fun variant => (variant.1, .bare variant.2)) name =
      .ok variant) : ∃ meaning, variant = .bare meaning := by
  rw [Variants.find, lookup_bare] at found
  cases named : variants.lookup name with
  | none =>
      rw [named] at found
      cases found
  | some meaning =>
      rw [named] at found
      cases found
      exact ⟨meaning, rfl⟩

/-- In an object, the name is the only key, and its value is `null`. -/
theorem exists_null_of_named {variants : List (String × α)} {members : List Member}
    {ending : Ending} {meaning : α}
    (decoded : named variants (.object members ending) = .ok meaning) :
    ∃ key, members = [(key, .word .null)] := by
  cases members with
  | nil => cases ending <;> cases decoded
  | cons member rest =>
      obtain ⟨key, value⟩ := member
      obtain ⟨name, _, chosen⟩ := Decoded.bind_eq_ok.mp decoded
      obtain ⟨variant, found, contents⟩ := Decoded.bind_eq_ok.mp chosen
      obtain ⟨bare, rfl⟩ := exists_bare_of_find found
      obtain ⟨result, contentsDecoded, last⟩ := Decoded.bind_eq_ok.mp contents
      obtain ⟨_, nothing, _⟩ := Decoded.bind_eq_ok.mp contentsDecoded
      cases eq_null_of_null nothing
      cases rest with
      | nil => exact ⟨key, rfl⟩
      | cons member rest => cases last

theorem steady_named (variants : List (String × α)) : Steady (named variants) := by
  intro value other rearranged meaning decoded
  cases rearranged with
  | members permuted _ =>
      obtain ⟨key, rfl⟩ := exists_null_of_named decoded
      rw [permuted.singleton_eq] at decoded
      exact decoded
  | item => cases decoded
  | @member before after key value other ending inner =>
      obtain ⟨name, single⟩ := exists_null_of_named decoded
      have inside : (key, value) ∈ [(name, Value.word .null)] := by
        rw [← single]
        simp
      cases List.mem_singleton.mp inside
      cases inner

/-! ## Lists -/

theorem steady_list {decode : Decoder α} (steady : Steady decode) : Steady (list decode) := by
  intro value other rearranged meaning decoded
  cases rearranged with
  | members => exact absurd decoded mismatch_ne_ok
  | member => exact absurd decoded mismatch_ne_ok
  | item inner => exact replaceable_list_item (steady inner) decoded

/-! ## Maps -/

theorem steady_map {decode : Decoder α} (steady : Steady decode) : Steady (map decode) := by
  intro value other rearranged meaning decoded
  cases rearranged with
  | item => exact absurd decoded mismatch_ne_ok
  | @members members others ending permuted ordered =>
      obtain ⟨whole, taken, rest⟩ := Decoded.bind_eq_ok.mp decoded
      rw [readEntries_eq_foldlM] at taken
      obtain ⟨_, otherTaken, rfl⟩ :=
        (takeEntry_orderFree decode).foldlM_perm members permuted ordered taken
      rw [← readEntries_eq_foldlM] at otherTaken
      exact Decoded.bind_eq_ok.mpr ⟨whole, otherTaken, rest⟩
  | member inner => exact replaceable_map_member (steady inner) decoded

/-! ## Records -/

theorem steady_needed {name : String} {decode : Decoder β} {put : α → β → α}
    (steady : Json.Steady decode) : (RecordField.needed name decode put).Steady :=
  fun _ _ rearranged => replaceable_field (steady rearranged)

theorem steady_maybe {name : String} {decode : Decoder β} {put : α → Option β → α}
    (steady : Json.Steady decode) : (RecordField.maybe name decode put).Steady :=
  fun _ _ rearranged => replaceable_field (steady_optional steady rearranged)

/-- What a record has to see in the end does not depend on the order in which it saw it. -/
theorem record_perm {name : String} {fields : List (RecordField α)} {blank meaning : α}
    {members others : List Member} {ending : Ending} (pairwise : fields.Pairwise Exchangeable)
    (permuted : members.Perm others) (ordered : SameOrder members others)
    (decoded : record name fields blank (.object members ending) = .ok meaning) :
    record name fields blank (.object others ending) = .ok meaning := by
  obtain ⟨⟨seen, filled⟩, taken, rest⟩ := Decoded.bind_eq_ok.mp decoded
  rw [readMembers_eq_foldlM] at taken
  obtain ⟨⟨otherSeen, otherFilled⟩, otherTaken, same, sameSeen⟩ :=
    (takeMember_orderFree pairwise).foldlM_perm members permuted ordered taken
  obtain rfl : filled = otherFilled := same
  rw [← readMembers_eq_foldlM] at otherTaken
  refine Decoded.bind_eq_ok.mpr ⟨_, otherTaken, ?_⟩
  have missing : ∀ field : RecordField α,
      seen.contains field.name = otherSeen.contains field.name := by
    intro field
    rw [Bool.eq_iff_iff, List.contains_iff_mem, List.contains_iff_mem]
    exact sameSeen field.name
  simp only [missing] at rest
  exact rest

/-- A record does not depend on the order of members if its fields are independent of each other and
none of them does. -/
theorem steady_record {name : String} {fields : List (RecordField α)} {blank : α}
    (pairwise : fields.Pairwise Exchangeable) (steady : fields.Forall RecordField.Steady) :
    Steady (record name fields blank) := by
  rw [List.forall_iff_forall_mem] at steady
  intro value other rearranged meaning decoded
  cases rearranged with
  | members permuted ordered => exact record_perm pairwise permuted ordered decoded
  | item inner =>
      exact replaceable_record_item
        (fun field place => steady field (List.mem_of_getElem? place) inner) decoded
  | member inner =>
      exact replaceable_record_member (fun field inside _ => steady field inside inner)
        inner.fault?.trans decoded

end ContentBlocking.Json
