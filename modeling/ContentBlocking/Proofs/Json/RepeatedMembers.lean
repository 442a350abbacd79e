import ContentBlocking.Proofs.Json.MemberOrder
import ContentBlocking.Proofs.Json.Replacing

/-!
# Repeated members

Of the members of a map with the same name, the last one counts. The ones before it can be left out
of the text.
-/

namespace ContentBlocking.Json

variable {α : Type}

/-- Whether members come from others by leaving out one that a later one with its name replaces. -/
inductive LeavesOut : List Member → List Member → Prop
  | repeated {before after : List Member} {member later : Member} {name : String} :
      isNamed name member = true → later ∈ after → isNamed name later = true →
        LeavesOut (before ++ member :: after) (before ++ after)

/-- Whether a repeated member has been left out of an object that is a direct part of a value. -/
inductive Value.LeavesOutInside : Value → Value → Prop
  | member {before after : List Member} {key : WrittenText} {members others : List Member}
      {ending outerEnding : Ending} :
      LeavesOut members others →
        LeavesOutInside (.object (before ++ (key, .object members ending) :: after) outerEnding)
          (.object (before ++ (key, .object others ending) :: after) outerEnding)
  | item {before after : List Value} {members others : List Member} {ending outerEnding : Ending} :
      LeavesOut members others →
        LeavesOutInside (.array (before ++ .object members ending :: after) outerEnding)
          (.array (before ++ .object others ending :: after) outerEnding)

/-- Whether a text can be obtained from another one by leaving out repeated members of the objects
that are direct parts of its value, so that the last one with each name stays. -/
def LeavesOutRepeated : List Symbol → List Symbol → Prop := ChangesText Value.LeavesOutInside

/-- An entry that is replaced later need not be there. -/
theorem foldlM_takeEntry_insert {decode : Decoder α} {name : String} {content : α} {later : Member}
    (laterNamed : later.1.decode = .ok name) (members : List Member) (inside : later ∈ members) :
    ∀ {map whole : SortedMap α},
      members.foldlM (takeEntry decode) (map.insert name content) = .ok whole →
        members.foldlM (takeEntry decode) map = .ok whole := by
  induction members with
  | nil => cases inside
  | cons first rest inductionHypothesis =>
      intro map whole taken
      rw [List.foldlM_cons] at taken ⊢
      obtain ⟨between, firstTaken, restTaken⟩ := Decoded.bind_eq_ok.mp taken
      obtain ⟨other, decoded, firstNamed, firstDecoded, rfl⟩ := takeEntry_eq_ok.mp firstTaken
      have firstTakenAlone : takeEntry decode map first = .ok (map.insert other decoded) :=
        takeEntry_eq_ok.mpr ⟨other, decoded, firstNamed, firstDecoded, rfl⟩
      by_cases same : name = other
      · subst same
        rw [SortedMap.insert_insert_same] at restTaken
        exact Decoded.bind_eq_ok.mpr ⟨_, firstTakenAlone, restTaken⟩
      · have elsewhere : later ∈ rest := by
          rcases List.mem_cons.mp inside with rfl | elsewhere
          · rw [firstNamed] at laterNamed
            exact absurd (Except.ok.inj laterNamed).symm same
          · exact elsewhere
        rw [SortedMap.insert_insert_comm map same] at restTaken
        exact Decoded.bind_eq_ok.mpr
          ⟨_, firstTakenAlone, inductionHypothesis elsewhere restTaken⟩

/-- A map is decoded in the same way without the members that later ones replace. -/
theorem replaceable_map {decode : Decoder α} {members others : List Member} {ending : Ending}
    (leavesOut : LeavesOut members others) :
    Replaceable (map decode) (.object members ending) (.object others ending) := by
  intro meaning decoded
  obtain ⟨whole, taken, rest⟩ := Decoded.bind_eq_ok.mp decoded
  rw [readEntries_eq_foldlM] at taken
  have stillTaken : others.foldlM (takeEntry decode) ∅ = .ok whole := by
    obtain ⟨named, inside, laterNamed⟩ := leavesOut
    rw [List.foldlM_append, Decoded.bind_eq_ok] at taken ⊢
    obtain ⟨between, beforeTaken, further⟩ := taken
    obtain ⟨beyond, memberTaken, afterTaken⟩ := Decoded.bind_eq_ok.mp further
    obtain ⟨other, decoded, memberNamed, _, rfl⟩ := takeEntry_eq_ok.mp memberTaken
    have same : other = _ := Except.ok.inj (memberNamed.symm.trans (isNamed_iff.mp named))
    subst same
    exact ⟨between, beforeTaken,
      foldlM_takeEntry_insert (isNamed_iff.mp laterNamed) _ inside afterTaken⟩
  rw [← readEntries_eq_foldlM] at stillTaken
  exact Decoded.bind_eq_ok.mpr ⟨whole, stillTaken, rest⟩

/-- In the place of a field for a map, with or without repeated members the value is the same. -/
theorem replaceable_optional_map {decode : Decoder α} {members others : List Member}
    {ending : Ending} (leavesOut : LeavesOut members others) :
    Replaceable (optional (map decode)) (.object members ending) (.object others ending) :=
  replaceable_optional rfl rfl (replaceable_map leavesOut)

/-- A record all of whose fields are maps does not notice that repeated members are left out. -/
theorem replaceable_record_maps {name : String} {fields : List (RecordField α)} {blank : α}
    (maps : ∀ {members others : List Member} (ending : Ending), LeavesOut members others →
      fields.Forall fun field => field.Replaceable (.object members ending) (.object others ending))
    {value other : Value} (leavesOut : value.LeavesOutInside other) :
    Replaceable (record name fields blank) value other := by
  cases leavesOut with
  | @member _ _ _ _ _ ending _ inner =>
      have replaceable := List.forall_iff_forall_mem.mp (maps ending inner)
      exact replaceable_record_member (fun field inside _ => replaceable field inside) id
  | @item _ _ _ _ ending _ inner =>
      have replaceable := List.forall_iff_forall_mem.mp (maps ending inner)
      exact replaceable_record_item fun field place =>
        replaceable field (List.mem_of_getElem? place)

end ContentBlocking.Json
