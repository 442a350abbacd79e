import ContentBlocking.Proofs.Dataset.MemberOrder
import ContentBlocking.Proofs.Json.UnknownMembers

/-!
# Unknown members of a dataset

Datasets say more than what is needed of them. A dataset has records of six kinds, inside lists,
maps and other records; a member with a name that its record does not know is passed over in all of
them, and the text decodes to the same dataset as without it. In a map there are no unknown members,
so a new member is only looked for inside the records that it holds.
-/

namespace ContentBlocking

open Json

/-! ## Records inside a dataset -/

inductive RecordKind where
  | dataset
  | tracker
  | owner
  | entity
  | rule
  | restriction

/-- Where records of a kind stand: one by itself, or several in a list or a map. -/
inductive Holding where
  | single (kind : RecordKind)
  | list (kind : RecordKind)
  | map (kind : RecordKind)

namespace RecordKind

/-- The names that a record knows, in the order in which a list has its members. -/
def names : RecordKind → List String
  | dataset => ["trackers", "entities", "domains", "cnames"]
  | tracker =>
      ["domain", "default", "owner", "prevalence", "subdomains", "categories", "rules"]
  | owner => ["name", "displayName", "ownedBy"]
  | entity => ["displayName", "domains", "prevalence"]
  | rule => ["rule", "surrogate", "action", "options", "exceptions"]
  | restriction => ["domains", "types"]

/-- The records inside a record, with the names under which they stand. -/
def parts : RecordKind → List (String × Holding)
  | dataset => [("trackers", .map tracker), ("entities", .map entity)]
  | tracker => [("owner", .single owner), ("rules", .list rule)]
  | rule => [("options", .single restriction), ("exceptions", .single restriction)]
  | owner | entity | restriction => []

abbrev Meaning : RecordKind → Type
  | dataset => Dataset
  | tracker => Tracker
  | owner => Owner
  | entity => Entity
  | rule => TrackerRule
  | restriction => Restriction

def decode : (kind : RecordKind) → Decoder kind.Meaning
  | dataset => Dataset.decodeParts
  | tracker => Tracker.decode
  | owner => Owner.decode
  | entity => Entity.decode
  | rule => TrackerRule.decode
  | restriction => Restriction.decode

end RecordKind

namespace Holding

abbrev Meaning : Holding → Type
  | single kind => kind.Meaning
  | list kind => List kind.Meaning
  | map kind => SortedMap kind.Meaning

def decode : (holding : Holding) → Decoder holding.Meaning
  | single kind => kind.decode
  | list kind => Json.list kind.decode
  | map kind => Json.map kind.decode

/-- Whether one of the records that stand in the first value has one more member in the second, with
a name that it does not know and any value of the grammar. -/
inductive Gains : Holding → Value → Value → Prop
  | here {kind : RecordKind} {before after : List Member} {key : WrittenText} {name : String}
      {value : Value} {text : List Symbol} {ending : Ending} :
      key.decode = .ok name → name ∉ kind.names → Spells text (.spaced value) →
        Gains (single kind) (.object (before ++ after) ending)
          (.object (before ++ (key, value) :: after) ending)
  | member {kind : RecordKind} {part : Holding} {before after : List Member} {key : WrittenText}
      {name : String} {value other : Value} {ending : Ending} :
      key.decode = .ok name → (name, part) ∈ kind.parts → Gains part value other →
        Gains (single kind) (.object (before ++ (key, value) :: after) ending)
          (.object (before ++ (key, other) :: after) ending)
  | place {kind : RecordKind} {part : Holding} {before after : List Value} {name : String}
      {value other : Value} {ending : Ending} :
      kind.names[before.length]? = some name → (name, part) ∈ kind.parts →
        Gains part value other →
          Gains (single kind) (.array (before ++ value :: after) ending)
            (.array (before ++ other :: after) ending)
  | item {kind : RecordKind} {before after : List Value} {value other : Value} {ending : Ending} :
      Gains (single kind) value other →
        Gains (list kind) (.array (before ++ value :: after) ending)
          (.array (before ++ other :: after) ending)
  | entry {kind : RecordKind} {before after : List Member} {key : WrittenText}
      {value other : Value} {ending : Ending} :
      Gains (single kind) value other →
        Gains (map kind) (.object (before ++ (key, value) :: after) ending)
          (.object (before ++ (key, other) :: after) ending)

variable {holding : Holding} {value other : Value}

theorem Gains.fault? (gains : holding.Gains value other) : other.fault? = value.fault? := by
  cases gains <;> rfl

theorem Gains.replaceable_optional {α : Type} {decode : Decoder α}
    (gains : holding.Gains value other) (replaceable : Replaceable decode value other) :
    Replaceable (optional decode) value other := by
  apply Json.replaceable_optional _ _ replaceable
  · cases gains <;> rfl
  · cases gains <;> rfl

end Holding

/-! ## Decoding -/

/-- Whether a field of a record passes over what the records that it holds pass over. -/
def Json.RecordField.PassesOver {α : Type} (kind : RecordKind) (field : RecordField α) : Prop :=
  ∀ ⦃part : Holding⦄ ⦃value other : Value⦄, (field.name, part) ∈ kind.parts →
    part.Gains value other → Json.Replaceable part.decode value other →
      field.Replaceable value other

section Fields

variable {α : Type} {kind : RecordKind} {name : String}

/-- A field that holds no records is not concerned with what records gain. -/
theorem passesOver_plain {field : RecordField α}
    (plain : field.name ∉ kind.parts.map Prod.fst) : field.PassesOver kind := by
  intro part value other listed
  exact absurd (List.mem_map_of_mem (f := Prod.fst) listed) plain

theorem passesOver_needed (part : Holding) {put : α → part.Meaning → α}
    (only : ∀ other, (name, other) ∈ kind.parts → other = part) :
    (RecordField.needed name part.decode put).PassesOver kind := by
  intro other value changed listed _ replaceable
  obtain rfl := only other listed
  exact replaceable_field replaceable

theorem passesOver_maybe (part : Holding) {put : α → Option part.Meaning → α}
    (only : ∀ other, (name, other) ∈ kind.parts → other = part) :
    (RecordField.maybe name part.decode put).PassesOver kind := by
  intro other value changed listed gains replaceable
  obtain rfl := only other listed
  exact replaceable_field (gains.replaceable_optional replaceable)

end Fields

/-- Each kind of record is decoded by its names, with its parts in their fields. -/
theorem RecordKind.exists_record (kind : RecordKind) :
    ∃ title fields blank, kind.decode = record title fields blank ∧
      fields.map RecordField.name = kind.names ∧
      fields.Forall (RecordField.PassesOver kind) := by
  cases kind with
  | dataset =>
      exact ⟨_, _, _, rfl, rfl, passesOver_needed (.map .tracker) (by simp [parts]),
        passesOver_needed (.map .entity) (by simp [parts]),
        passesOver_plain (by decide), passesOver_plain (by decide)⟩
  | tracker =>
      exact ⟨_, _, _, rfl, rfl, passesOver_plain (by decide), passesOver_plain (by decide),
        passesOver_maybe (.single .owner) (by simp [parts]),
        passesOver_plain (by decide), passesOver_plain (by decide), passesOver_plain (by decide),
        passesOver_maybe (.list .rule) (by simp [parts])⟩
  | rule =>
      exact ⟨_, _, _, rfl, rfl, passesOver_plain (by decide), passesOver_plain (by decide),
        passesOver_plain (by decide),
        passesOver_maybe (.single .restriction) (by simp [parts]),
        passesOver_maybe (.single .restriction) (by simp [parts])⟩
  | owner | entity | restriction =>
      refine ⟨_, _, _, rfl, rfl, ?_⟩
      rw [List.forall_iff_forall_mem]
      exact fun field _ => passesOver_plain List.not_mem_nil

namespace Holding

variable {holding : Holding} {value other : Value}

/-- What records gain does not change what they are decoded to. -/
theorem Gains.replaceable (gains : holding.Gains value other) :
    Replaceable holding.decode value other := by
  induction gains with
  | @here kind before after key name value text ending named unknown spelled =>
      obtain ⟨title, fields, blank, decoder, names, _⟩ := kind.exists_record
      rw [← names] at unknown
      intro meaning decoded
      rw [decode, decoder] at decoded ⊢
      rw [record_insert_unknown named unknown (spells_iff.mp spelled).2]
      exact decoded
  | @member kind part before after key name value other ending named listed inner replaceable =>
      obtain ⟨title, fields, blank, decoder, _, passes⟩ := kind.exists_record
      rw [List.forall_iff_forall_mem] at passes
      rw [decode, decoder]
      apply replaceable_record_member _ inner.fault?.trans
      intro field inside fieldNamed
      have sameName : name = field.name := Except.ok.inj (named.symm.trans fieldNamed)
      exact passes field inside (sameName ▸ listed) inner replaceable
  | @place kind part before after name value other ending named listed inner replaceable =>
      obtain ⟨title, fields, blank, decoder, names, passes⟩ := kind.exists_record
      rw [List.forall_iff_forall_mem] at passes
      rw [decode, decoder]
      apply replaceable_record_item
      intro field placed
      have sameName : name = field.name := by
        rw [← names, List.getElem?_map, placed] at named
        exact (Option.some.inj named).symm
      exact passes field (List.mem_of_getElem? placed) (sameName ▸ listed) inner replaceable
  | item _ replaceable => exact replaceable_list_item replaceable
  | entry _ replaceable => exact replaceable_map_member replaceable

end Holding

/-! ## Texts -/

/-- Whether a text can be obtained from another one by giving records of a dataset members with
names that they do not know. -/
def GainsUnknown : List Symbol → List Symbol → Prop :=
  ChangesText (Holding.single .dataset).Gains

/-- Members that its records do not know leave a dataset as it is. -/
theorem Dataset.ofString_gained {text : String} {dataset : Dataset}
    (loaded : Dataset.ofString text = .ok dataset) :
    (∃ value, Spells (Symbol.ofString text) (.spaced value)) ∧
      ∀ other : String, GainsUnknown (Symbol.ofString text) (Symbol.ofString other) →
        Dataset.ofString other = .ok dataset := by
  obtain ⟨parts, decoded, rfl⟩ := ofString_eq_ok.mp loaded
  refine ⟨exists_spells_of_decodeText fault?_of_record decoded, ?_⟩
  intro other gains
  have otherDecoded := decodeText_changed (fun gained => gained.replaceable) gains decoded
  exact ofString_eq_ok.mpr ⟨parts, otherDecoded, rfl⟩

/-! ### A tracker and its owner with notes -/

/-- A tracker with an owner, and further members of the owner and around those of the dataset. -/
def ownedAds (ofOwner front back : List (String × Document)) : Document :=
  .object
    (front ++
      ("trackers", .object
        [("ads.example", .object
          [("owner", .object (ofOwner ++ [("name", .text "Ads")]))])]) ::
      ("entities", .object []) :: ("domains", .object []) :: back)

def ownerNote : Document :=
  .object [("domain", .array [.text "", .object []]), ("domain", .array [])]

/-- The same with a note on the owner, and with two members of one name around the others. -/
def notedAds : Document :=
  ownedAds [("note", ownerNote)] [("more", .array [])] [("more", .text "")]

def adsOfOwner : Dataset :=
  ⟨.ofList [("ads.example", { owner := some { name := some "Ads" } })], ∅, ∅, none⟩

theorem ofString_ownedAds :
    Dataset.ofString ((ownedAds [] [] []).render .compact) = .ok adsOfOwner := by
  have numberless : (ownedAds [] [] []).Numberless := by
    simp [ownedAds, Document.Numberless, MembersNumberless]
  have decoded : Dataset.decodeParts (ownedAds [] [] []).value = .ok adsOfOwner := by rfl
  have spelled := spells_render .compact numberless
  exact ofString_eq_ok.mpr ⟨adsOfOwner, (decodeText_of_spells spelled).trans decoded, rfl⟩

theorem gains_document {kind : RecordKind} {name : String} {content : Document}
    (unknown : name ∉ kind.names) (numberless : content.Numberless)
    (before after : List (String × Document)) :
    (Holding.single kind).Gains (Document.object (before ++ after)).value
      (Document.object (before ++ (name, content) :: after)).value := by
  simp only [Document.value, memberValues_append, memberValues]
  exact .here (decode_ofString name) unknown (spells_render .compact numberless)

theorem gains_ownerNote :
    (Holding.single .dataset).Gains (ownedAds [] [] []).value
      (ownedAds [("note", ownerNote)] [] []).value := by
  have numberless : ownerNote.Numberless := by
    simp [ownerNote, Document.Numberless, MembersNumberless, ItemsNumberless]
  have unknown : "note" ∉ RecordKind.owner.names := by decide
  have owner := gains_document unknown numberless [] [("name", .text "Ads")]
  have tracker := @Holding.Gains.member .tracker _ [] [] _ _ _ _ .closed (decode_ofString "owner")
    (by simp [RecordKind.parts]) owner
  have trackers := @Holding.Gains.entry _ [] [] (.ofString "ads.example") _ _ .closed tracker
  exact @Holding.Gains.member .dataset _ [] _ _ _ _ _ _ (decode_ofString "trackers")
    (by simp [RecordKind.parts]) trackers

theorem gainsUnknown_ads :
    GainsUnknown (Symbol.ofString ((ownedAds [] [] []).render .compact))
      (Symbol.ofString (notedAds.render .compact)) := by
  have numberless : (ownedAds [] [] []).Numberless := by
    simp [ownedAds, Document.Numberless, MembersNumberless]
  have otherNumberless : notedAds.Numberless := by
    simp [notedAds, ownedAds, ownerNote, Document.Numberless, MembersNumberless, ItemsNumberless]
  have unknown : "more" ∉ RecordKind.dataset.names := by decide
  have frontNumberless : (Document.array []).Numberless := trivial
  have backNumberless : (Document.text "").Numberless := trivial
  have front : (Holding.single .dataset).Gains (ownedAds [("note", ownerNote)] [] []).value
      (ownedAds [("note", ownerNote)] [("more", .array [])] []).value :=
    gains_document unknown frontNumberless [] _
  have back : (Holding.single .dataset).Gains
      (ownedAds [("note", ownerNote)] [("more", .array [])] []).value notedAds.value :=
    gains_document unknown backNumberless [_, _, _, _] []
  exact ⟨_, _, spells_render _ numberless, spells_render _ otherNumberless,
    .head gains_ownerNote (.head front (.single back))⟩

theorem ofString_gained_ads :
    Dataset.ofString ((ownedAds [] [] []).render .compact) = .ok adsOfOwner ∧
      GainsUnknown (Symbol.ofString ((ownedAds [] [] []).render .compact))
        (Symbol.ofString (notedAds.render .compact)) ∧
      Dataset.ofString (notedAds.render .compact) = .ok adsOfOwner := by
  have whole := Dataset.ofString_gained ofString_ownedAds
  exact ⟨ofString_ownedAds, gainsUnknown_ads, whole.2 _ gainsUnknown_ads⟩

end ContentBlocking
