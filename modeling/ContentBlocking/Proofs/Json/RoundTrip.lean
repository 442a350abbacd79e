import ContentBlocking.Proofs.Json.Writing
import ContentBlocking.Rule.Wire

/-!
# Decoding written documents

What a decoder makes of the value of a document that was written for it. Records are followed member
by member, so that a record type only has to list its fields.
-/

namespace ContentBlocking.Json

variable {α β : Type}

/-- Whether a document can be read back, and is then decoded as the given value. -/
structure Document.StandsFor (document : Document) (decode : Decoder α) (meaning : α) : Prop where
  numberless : document.Numberless
  decoded : decode document.value = .ok meaning

/-- A document that stands for a value is decoded as this value, however it is laid out. -/
theorem Document.StandsFor.decodeString_render {document : Document} {decode : Decoder α}
    {meaning : α} (stands : document.StandsFor decode meaning) (layout : Layout) :
    decodeString decode (document.render layout) = .ok meaning := by
  have content := read_render layout stands.numberless
  simp only [decodeString, decodeText, content, stands.decoded]
  rfl

/-! ## Plain values -/

theorem orFault_decode (content : String) :
    orFault (WrittenText.ofString content).decode = .ok content := by
  rw [decode_ofString]
  rfl

theorem text_standsFor (content : String) : (Document.text content).StandsFor text content where
  numberless := trivial
  decoded := orFault_decode content

theorem optional_value (decode : Decoder α) (document : Document) :
    optional decode document.value = (decode document.value).map some := by
  cases document <;> rfl

/-! ## Choices -/

theorem choice_standsFor_bare {variants : Variants α} {name : String} {meaning : α}
    (found : variants.lookup name = some (.bare meaning)) :
    (Document.text name).StandsFor (choice variants) meaning where
  numberless := trivial
  decoded := by
    simp only [Document.value, choice, orFault_decode, Variants.find]
    simp only [bind, Except.bind, found]
    rfl

theorem choice_standsFor_filled {variants : Variants α} {name : String} {decode : Decoder α}
    {document : Document} {meaning : α} (found : variants.lookup name = some (.filled decode))
    (stands : document.StandsFor decode meaning) :
    (Document.object [(name, document)]).StandsFor (choice variants) meaning where
  numberless := ⟨stands.numberless, trivial⟩
  decoded := by
    simp only [Document.value, memberValues, choice, orFault_decode, Variants.find]
    simp only [bind, Except.bind, found, Variant.contents, stands.decoded]
    rfl

theorem lookup_bare (variants : List (String × α)) (name : String) :
    (variants.map fun variant => (variant.1, Variant.bare variant.2)).lookup name =
      (variants.lookup name).map .bare := by
  induction variants with
  | nil => rfl
  | cons variant variants inductionHypothesis =>
      obtain ⟨other, value⟩ := variant
      by_cases here : name = other
      · rw [here, List.map_cons, List.lookup_cons_self, List.lookup_cons_self]
        rfl
      · have apart : (name == other) = false := beq_false_of_ne here
        simp only [List.map_cons, List.lookup_cons, apart, inductionHypothesis]

theorem named_standsFor {variants : List (String × α)} {name : String} {meaning : α}
    (found : variants.lookup name = some meaning) :
    (Document.text name).StandsFor (named variants) meaning := by
  apply choice_standsFor_bare
  rw [lookup_bare, found]
  rfl

/-! ## Lists -/

theorem itemsNumberless_iff (items : List Document) :
    ItemsNumberless items ↔ ∀ item ∈ items, item.Numberless := by
  induction items with
  | nil => simp [ItemsNumberless]
  | cons item items inductionHypothesis => simp [ItemsNumberless, inductionHypothesis]

theorem mapM_value {write : α → Document} {decode : Decoder α} {contents : List α}
    (stands : ∀ content ∈ contents, (write content).StandsFor decode content) :
    (itemValues (contents.map write)).mapM decode = .ok contents := by
  induction contents with
  | nil => rfl
  | cons content contents inductionHypothesis =>
      have here := (stands content List.mem_cons_self).decoded
      have others := inductionHypothesis fun other member =>
        stands other (List.mem_cons_of_mem content member)
      simp only [List.map_cons, itemValues, List.mapM_cons, here, others]
      rfl

theorem list_standsFor {write : α → Document} {decode : Decoder α} {contents : List α}
    (stands : ∀ content ∈ contents, (write content).StandsFor decode content) :
    (Document.list write contents).StandsFor (list decode) contents where
  numberless := by
    simp only [Document.list, Document.Numberless, itemsNumberless_iff, List.forall_mem_map]
    exact fun content member => (stands content member).numberless
  decoded := by
    simp only [Document.list, Document.value, list, mapM_value stands]
    rfl

theorem texts_standsFor (contents : List String) :
    (Document.texts contents).StandsFor (list text) contents :=
  list_standsFor fun content _ => text_standsFor content

/-! ## Records -/

theorem memberValues_append (members others : List (String × Document)) :
    memberValues (members ++ others) = memberValues members ++ memberValues others := by
  induction members with
  | nil => rfl
  | cons member members inductionHypothesis =>
      rw [List.cons_append, memberValues, memberValues, inductionHypothesis, List.cons_append]

theorem membersNumberless_iff (members : List (String × Document)) :
    MembersNumberless members ↔ ∀ member ∈ members, member.2.Numberless := by
  induction members with
  | nil => simp [MembersNumberless]
  | cons member members inductionHypothesis =>
      rw [MembersNumberless, inductionHypothesis, List.forall_mem_cons]

theorem membersNumberless_append {members others : List (String × Document)}
    (first : MembersNumberless members) (second : MembersNumberless others) :
    MembersNumberless (members ++ others) := by
  rw [membersNumberless_iff] at first second ⊢
  exact List.forall_mem_append.mpr ⟨first, second⟩

/-- The names of the fields seen after one that may be absent. -/
def noted (name : String) (content : Option β) (seen : List String) : List String :=
  match content with
  | some _ => name :: seen
  | none => seen

@[simp] theorem mem_noted {name other : String} {content : Option β} {seen : List String} :
    other ∈ noted name content seen ↔ content.isSome ∧ other = name ∨ other ∈ seen := by
  cases content <;> simp [noted]

/-- Whether members that follow the fields `seen` turn one record into another. -/
structure Fills (fields : List (RecordField α)) (seen : List String) (record : α)
    (members : List (String × Document)) (seenAfter : List String) (recordAfter : α) : Prop where
  numberless : MembersNumberless members
  stored : ∀ rest, readMembers fields seen record (memberValues members ++ rest) =
    readMembers fields seenAfter recordAfter rest

namespace Fills

variable {fields : List (RecordField α)} {seen between after : List String}
  {record halfway result : α} {members others : List (String × Document)}

theorem append (first : Fills fields seen record members between halfway)
    (second : Fills fields between halfway others after result) :
    Fills fields seen record (members ++ others) after result where
  numberless := membersNumberless_append first.numberless second.numberless
  stored rest := by
    rw [memberValues_append, List.append_assoc, first.stored, second.stored]

theorem single {name : String} {field : RecordField α} {document : Document}
    (known : fields.find? (fun field => field.name = name) = some field) (fresh : name ∉ seen)
    (numberless : document.Numberless) (stored : field.store document.value record = .ok result) :
    Fills fields seen record [(name, document)] (name :: seen) result where
  numberless := ⟨numberless, trivial⟩
  stored rest := by
    simp only [memberValues, List.cons_append, List.nil_append, readMembers, orFault_decode]
    simp only [bind, Except.bind, if_neg fresh]
    rw [known]
    simp only [stored]

theorem needed {name : String} {decode : Decoder β} {put : α → β → α} {document : Document}
    {meaning : β} (stands : document.StandsFor decode meaning)
    (known : fields.find? (fun field => field.name = name) = some (.needed name decode put))
    (fresh : name ∉ seen) :
    Fills fields seen record [(name, document)] (name :: seen) (put record meaning) := by
  apply single known fresh stands.numberless
  simp only [RecordField.needed, stands.decoded]
  rfl

/-- A field that may be absent is filled by its member or, without content, left as it is. -/
theorem maybe {name : String} {decode : Decoder β} {put : α → Option β → α} {write : β → Document}
    {content : Option β}
    (stands : ∀ meaning ∈ content, (write meaning).StandsFor decode meaning)
    (known : fields.find? (fun field => field.name = name) = some (.maybe name decode put))
    (fresh : name ∉ seen) (untouched : put record none = record) :
    Fills fields seen record (Document.member? name write content) (noted name content seen)
      (put record content) := by
  cases content with
  | none =>
      rw [untouched]
      exact ⟨trivial, fun rest => rfl⟩
  | some meaning =>
      have here := stands meaning rfl
      apply single known fresh here.numberless
      simp only [RecordField.maybe, optional_value, here.decoded]
      rfl

/-- An object is read back if its members fill the record and no required field is left out. -/
theorem standsFor {name : String} {blank meaning : α}
    (filled : Fills fields [] blank members after result)
    (complete : ∀ field ∈ fields, field.required = true → field.name ∈ after)
    (same : result = meaning) :
    (Document.object members).StandsFor (Json.record name fields blank) meaning where
  numberless := filled.numberless
  decoded := by
    have whole := filled.stored []
    rw [List.append_nil] at whole
    have present : fields.find? (fun field => field.required && !after.contains field.name) =
        none := by
      rw [List.find?_eq_none]
      intro field member
      simpa using complete field member
    simp only [Document.value, Json.record, whole, readMembers]
    simp only [bind, Except.bind, Ending.check, present, ← same]
    rfl

end Fills

end ContentBlocking.Json
