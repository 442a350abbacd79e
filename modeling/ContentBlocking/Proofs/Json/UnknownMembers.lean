import ContentBlocking.Proofs.Json.Replacing

/-!
# Unknown members

A record passes over a member whose name no field has, wherever it stands among the others. Nothing
is asked of its value but that it is complete.
-/

namespace ContentBlocking.Json

variable {α σ : Type}

/-- A member that changes nothing can be put in at any place. -/
theorem foldlM_insert {take : σ → Member → Decoded σ} {member : Member}
    (passes : ∀ state, take state member = .ok state) (before after : List Member) (state : σ) :
    (before ++ member :: after).foldlM take state = (before ++ after).foldlM take state := by
  rw [List.foldlM_append, List.foldlM_append]
  congr 1
  funext between
  rw [List.foldlM_cons, passes]
  rfl

/-- A record stays as it is when a member has a name that none of its fields has. -/
theorem takeMember_unknown {fields : List (RecordField α)} {member : Member} {name : String}
    (named : member.1.decode = .ok name) (unknown : name ∉ fields.map RecordField.name)
    (whole : member.2.fault? = none) (state : List String × α) :
    takeMember fields state member = .ok state := by
  have noField : fields.find? (fun field => field.name = name) = none := by
    rw [List.find?_eq_none]
    intro field inside same
    exact unknown (List.mem_map.mpr ⟨field, inside, of_decide_eq_true same⟩)
  exact takeMember_eq_ok.mpr (.unknown named noField whole)

/-- An unknown member changes neither what a record is decoded to nor why it is not. -/
theorem record_insert_unknown {fields : List (RecordField α)} {member : Member} {name : String}
    (named : member.1.decode = .ok name) (unknown : name ∉ fields.map RecordField.name)
    (whole : member.2.fault? = none) (title : String) (blank : α) (before after : List Member)
    (ending : Ending) :
    record title fields blank (.object (before ++ member :: after) ending) =
      record title fields blank (.object (before ++ after) ending) := by
  simp only [record, readMembers_eq_foldlM,
    foldlM_insert (takeMember_unknown named unknown whole) before after]

end ContentBlocking.Json
