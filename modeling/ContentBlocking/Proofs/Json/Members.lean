import ContentBlocking.Json.Decoder

/-!
# Objects member by member

The members of an object are taken one after the other, by a map as well as by a record. This says
what taking one member does, and that the whole object is taken by doing so again and again.
-/

namespace ContentBlocking.Json

variable {α β σ : Type}

/-! ## Outcomes -/

theorem Decoded.bind_eq_ok {outcome : Decoded α} {next : α → Decoded β} {result : β} :
    outcome >>= next = .ok result ↔ ∃ value, outcome = .ok value ∧ next value = .ok result := by
  cases outcome <;> simp [bind, Except.bind]

theorem Decoded.map_eq_ok {outcome : Decoded α} {next : α → β} {result : β} :
    outcome.map next = .ok result ↔ ∃ value, outcome = .ok value ∧ next value = result := by
  cases outcome <;> simp [Except.map]

theorem orFault_eq_ok {outcome : Except Fault α} {value : α} :
    orFault outcome = .ok value ↔ outcome = .ok value := by
  cases outcome with
  | ok content =>
      have same : orFault (.ok content) = .ok content := rfl
      rw [same, Except.ok.injEq, Except.ok.injEq]
  | error fault =>
      have refused : orFault (.error fault) = (.error (.fault fault) : Decoded α) := rfl
      simp [refused]

/-- Exactly the values without faults are passed over. -/
theorem skip_eq_ok {value : Value} : skip value = .ok () ↔ value.fault? = none := by
  cases found : value.fault? <;> simp [skip, found, failWith]

theorem Ending.check_eq_ok {ending : Ending} : ending.check = .ok () ↔ ending = .closed := by
  cases ending <;> simp [Ending.check, failWith]

theorem mismatch_ne_ok {expected : String} {value : Value} {meaning : α} :
    mismatch expected value ≠ .ok meaning := by
  intro accepted
  obtain ⟨found, _, refused⟩ := Decoded.bind_eq_ok.mp accepted
  cases refused

/-! ## Taking one member -/

def takeEntry (decode : Decoder α) (map : SortedMap α) (member : Member) :
    Decoded (SortedMap α) := do
  let name ← orFault member.1.decode
  let decoded ← decode member.2
  return map.insert name decoded

theorem readEntries_eq_foldlM (decode : Decoder α) (members : List Member) :
    ∀ map, readEntries decode map members = members.foldlM (takeEntry decode) map := by
  induction members with
  | nil => intro map; rfl
  | cons member members inductionHypothesis =>
      intro map
      simp only [readEntries, List.foldlM_cons, takeEntry, inductionHypothesis, bind_assoc,
        pure_bind]

theorem takeEntry_eq_ok {decode : Decoder α} {map next : SortedMap α} {member : Member} :
    takeEntry decode map member = .ok next ↔
      ∃ name decoded, member.1.decode = .ok name ∧ decode member.2 = .ok decoded ∧
        map.insert name decoded = next := by
  simp only [takeEntry, Decoded.bind_eq_ok, orFault_eq_ok, pure, Except.pure, Except.ok.injEq]
  constructor
  · rintro ⟨name, named, decoded, found, inserted⟩
    exact ⟨name, decoded, named, found, inserted⟩
  · rintro ⟨name, decoded, named, found, inserted⟩
    exact ⟨name, named, decoded, found, inserted⟩

/-- Takes a member of a record, of which the names of known members and the record so far are
given. -/
def takeMember (fields : List (RecordField α)) (state : List String × α) (member : Member) :
    Decoded (List String × α) := do
  let name ← orFault member.1.decode
  match fields.find? (fun field => field.name = name) with
  | none =>
      skip member.2
      return state
  | some field =>
      if name ∈ state.1 then .error (.duplicateField name)
      else
        let record ← field.store member.2 state.2
        return (name :: state.1, record)

/-- Filling a record is taking its members in one after the other. -/
theorem readMembers_eq_foldlM (fields : List (RecordField α)) (members : List Member) :
    ∀ seen record, readMembers fields seen record members =
      members.foldlM (takeMember fields) (seen, record) := by
  induction members with
  | nil => intro seen record; rfl
  | cons member members inductionHypothesis =>
      intro seen record
      simp only [readMembers, List.foldlM_cons, takeMember, inductionHypothesis, bind_assoc]
      congr 1
      funext name
      cases fields.find? (fun field => field.name = name) with
      | none => simp only [bind_assoc, pure_bind]
      | some field =>
          by_cases repeated : name ∈ seen
          · simp only [if_pos repeated]
            rfl
          · simp only [if_neg repeated, bind_assoc, pure_bind]

inductive Takes (fields : List (RecordField α)) :
    List String × α → Member → List String × α → Prop
  | unknown {state : List String × α} {member : Member} {name : String} :
      member.1.decode = .ok name → fields.find? (fun field => field.name = name) = none →
        member.2.fault? = none → Takes fields state member state
  | known {seen : List String} {record next : α} {member : Member} {name : String}
      {field : RecordField α} :
      member.1.decode = .ok name → fields.find? (fun field => field.name = name) = some field →
        name ∉ seen → field.store member.2 record = .ok next →
          Takes fields (seen, record) member (name :: seen, next)

theorem takeMember_eq_ok {fields : List (RecordField α)} {state next : List String × α}
    {member : Member} :
    takeMember fields state member = .ok next ↔ Takes fields state member next := by
  obtain ⟨seen, record⟩ := state
  rw [takeMember, Decoded.bind_eq_ok]
  constructor
  · rintro ⟨name, named, taken⟩
    rw [orFault_eq_ok] at named
    split at taken
    · rename_i unknown
      obtain ⟨_, skipped, same⟩ := Decoded.bind_eq_ok.mp taken
      cases same
      exact .unknown named unknown (skip_eq_ok.mp skipped)
    · rename_i field known
      split at taken
      · cases taken
      · rename_i fresh
        obtain ⟨filled, stored, same⟩ := Decoded.bind_eq_ok.mp taken
        cases same
        exact .known named known fresh stored
  · intro taken
    cases taken with
    | unknown named unknown whole =>
        refine ⟨_, orFault_eq_ok.mpr named, ?_⟩
        have skipped := skip_eq_ok.mpr whole
        simp only [unknown, skipped]
        rfl
    | known named known fresh stored =>
        refine ⟨_, orFault_eq_ok.mpr named, ?_⟩
        simp only [known, if_neg fresh, stored]
        rfl

end ContentBlocking.Json
