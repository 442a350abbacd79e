import ContentBlocking.Proofs.Json.Members
import ContentBlocking.Proofs.Json.Reading

/-!
# The reader accepts nothing but the grammar

A text that is read without fault is put together as the grammar demands. The proof goes backwards
through the steps of the reader: what is left of the text after a step has to complete what is
expected there and then to close the values that are still open, so with the token that was read it
does the same before the step.
-/

namespace ContentBlocking.Json

/-! ## Broken values -/

theorem fault?_abandon_ne_none {broken : Value} (fault : broken.fault? ≠ none)
    (outer : List Frame) : (abandon broken outer).fault? ≠ none := by
  induction outer generalizing broken with
  | nil => exact fault
  | cons frame outer inductionHypothesis =>
      cases frame with
      | array items => exact inductionHypothesis (Option.some_ne_none _)
      | object members key => exact inductionHypothesis (Option.some_ne_none _)

theorem fault?_breakOff_ne_none (position : Position) (fault : Fault) :
    (position.breakOff fault).fault? ≠ none := by
  apply fault?_abandon_ne_none
  obtain ⟨expected, outer⟩ := position
  cases expected with
  | key members => cases members <;> exact Option.some_ne_none _
  | _ => exact Option.some_ne_none _

/-! ## What closes the open values -/

/-- The text after a value closes the values that are open around it, and the result is reached. -/
def Closes : List Frame → Value → List Symbol → ReadText → Prop
  | [], value, text, result => result = ⟨value, !(skipSpace text).isEmpty⟩
  | .array done :: outer, value, text, result =>
      ∃ further items rest, text = further ++ .char ']' :: rest ∧
        SpellsFurtherItems further items ∧
        Closes outer (.array (done.reverse ++ value :: items) .closed) rest result
  | .object done key :: outer, value, text, result =>
      ∃ further members rest, text = further ++ .char '\x7d' :: rest ∧
        SpellsFurtherMembers further members ∧
        Closes outer (.object (done.reverse ++ (key, value) :: members) .closed) rest result

/-- The text begins with a value, and the rest closes the values that are open around it. -/
def OpensAndCloses (outer : List Frame) (text : List Symbol) (result : ReadText) : Prop :=
  ∃ blank body value rest, IsBlank blank ∧ text = blank ++ (body ++ rest) ∧
    Spells body (.value value) ∧ Closes outer value rest result

/-- The text completes what is expected and closes the open values, and the result is reached. -/
def Finishes : Position → List Symbol → ReadText → Prop
  | ⟨.value, outer⟩, text, result => OpensAndCloses outer text result
  | ⟨.firstItem, outer⟩, text, result =>
      ∃ body items rest, text = body ++ .char ']' :: rest ∧
        (IsBlank body ∧ items = [] ∨ Spells body (.items items)) ∧
        Closes outer (.array items .closed) rest result
  | ⟨.key done, outer⟩, text, result =>
      ∃ body members rest, text = body ++ .char '\x7d' :: rest ∧
        (IsBlank body ∧ done = [] ∧ members = [] ∨ Spells body (.members members)) ∧
        Closes outer (.object (done.reverse ++ members) .closed) rest result
  | ⟨.colon done key, outer⟩, text, result =>
      ∃ blank rest, IsBlank blank ∧ text = blank ++ .char ':' :: rest ∧
        OpensAndCloses (.object done key :: outer) rest result
  | ⟨.itemEnd done, outer⟩, text, result =>
      ∃ further items rest, text = further ++ .char ']' :: rest ∧
        SpellsFurtherItems further items ∧
        Closes outer (.array (done.reverse ++ items) .closed) rest result
  | ⟨.memberEnd done, outer⟩, text, result =>
      done ≠ [] → ∃ further members rest, text = further ++ .char '\x7d' :: rest ∧
        SpellsFurtherMembers further members ∧
        Closes outer (.object (done.reverse ++ members) .closed) rest result

def Continues : Position ⊕ Value → List Symbol → ReadText → Prop
  | .inl position, text, result => Finishes position text result
  | .inr value, text, result => result = ⟨value, !(skipSpace text).isEmpty⟩

/-- What the reader goes on with after a value closes the values that are open around it. -/
theorem closes_of_continues {outer : List Frame} {value : Value} {text : List Symbol}
    {result : ReadText} (continues : Continues (Position.complete value outer) text result) :
    Closes outer value text result := by
  cases outer with
  | nil => exact continues
  | cons frame outer =>
      cases frame with
      | array done => simpa [Position.complete, Continues, Finishes, Closes] using continues
      | object done key => simpa [Position.complete, Continues, Finishes, Closes] using continues

variable {outer : List Frame} {text rest : List Symbol} {token : Token} {result : ReadText}

/-- A value that is at fault is not mended by what follows. -/
theorem not_continues {value : Value} (fault : value.fault? ≠ none)
    (whole : result.value.fault? = none) : ¬ Continues (.inr value) rest result := by
  intro continues
  rw [Continues] at continues
  rw [continues] at whole
  exact fault whole

/-- If the reader gets through from the first token of a value on, a value is spelled there, and the
rest closes what is open. -/
theorem opensAndCloses_of_openValue (next : nextToken? text = some (token, rest))
    (whole : result.value.fault? = none)
    (continues : Continues (Position.openValue outer token) rest result) :
    OpensAndCloses outer text result := by
  cases token with
  | openBracket =>
      obtain ⟨body, items, behind, rfl, spelled, closes⟩ := continues
      obtain ⟨blank, isBlank, rfl⟩ := exists_of_nextToken?_mark next rfl
      refine ⟨blank, .char '[' :: (body ++ [.char ']']), .array items .closed, behind, isBlank,
        by simp, ?_, closes⟩
      rcases spelled with ⟨bodyBlank, rfl⟩ | spelled
      · exact .emptyArray bodyBlank
      · exact .array spelled
  | openBrace =>
      obtain ⟨body, members, behind, rfl, spelled, closes⟩ := continues
      obtain ⟨blank, isBlank, rfl⟩ := exists_of_nextToken?_mark next rfl
      refine ⟨blank, .char '\x7b' :: (body ++ [.char '\x7d']), .object members .closed, behind,
        isBlank, by simp, ?_, closes⟩
      rcases spelled with ⟨bodyBlank, _, rfl⟩ | spelled
      · exact .emptyObject bodyBlank
      · exact .object spelled
  | scalar value =>
      cases fault : value.fault? with
      | none =>
          rw [Position.openValue, fault] at continues
          obtain ⟨blank, body, isBlank, rfl, spelled⟩ := exists_of_nextToken?_scalar next fault
          exact ⟨blank, body, value, rest, isBlank, rfl, spelled, closes_of_continues continues⟩
      | some found =>
          rw [Position.openValue, fault] at continues
          have broken : value.fault? ≠ none := by simp [fault]
          exact absurd continues (not_continues (fault?_abandon_ne_none broken outer) whole)
  | closeBracket | closeBrace | comma | colon | foreign =>
      have broken := fault?_breakOff_ne_none ⟨.value, outer⟩ .malformed
      exact absurd continues (not_continues broken whole)

theorem finishes_firstItem (next : nextToken? text = some (token, rest))
    (whole : result.value.fault? = none)
    (continues : Continues (Position.step ⟨.firstItem, outer⟩ token) rest result) :
    Finishes ⟨.firstItem, outer⟩ text result := by
  by_cases ends : token = .closeBracket
  · subst ends
    obtain ⟨blank, isBlank, rfl⟩ := exists_of_nextToken?_mark next rfl
    exact ⟨blank, [], rest, rfl, Or.inl ⟨isBlank, rfl⟩, closes_of_continues continues⟩
  · have opens : Position.step ⟨.firstItem, outer⟩ token =
        Position.openValue (.array [] :: outer) token := by
      cases token <;> first | rfl | exact absurd rfl ends
    rw [opens] at continues
    obtain ⟨blank, body, value, _, isBlank, rfl, spelled, further, items, behind, rfl, others,
      closes⟩ := opensAndCloses_of_openValue next whole continues
    exact ⟨blank ++ (body ++ further), value :: items, behind, by simp,
      Or.inr (others.spells isBlank spelled), closes⟩

theorem finishes_key_text {done : List Member} {key : WrittenText}
    (next : nextToken? text = some (.scalar (.text key), rest)) (whole : result.value.fault? = none)
    (continues : Continues (Position.step ⟨.key done, outer⟩ (.scalar (.text key))) rest result) :
    Finishes ⟨.key done, outer⟩ text result := by
  cases fault : key.fault with
  | none =>
      have keyed : Position.step ⟨.key done, outer⟩ (.scalar (.text key)) =
          .inl ⟨.colon done key, outer⟩ := by
        simp [Position.step, Position.openKey, fault]
      rw [keyed] at continues
      obtain ⟨before, name, beforeBlank, rfl, spelledKey⟩ := exists_of_nextToken?_scalar next fault
      obtain ⟨between, _, betweenBlank, rfl, space, body, value, _, isSpace, rfl, spelled, further,
        members, behind, rfl, others, closes⟩ := continues
      have named : SpellsText name key := by
        cases spelledKey
        assumption
      refine ⟨before ++ (name ++ (between ++ .char ':' :: (space ++ (body ++ further)))),
        (key, value) :: members, behind, by simp, Or.inr ?_, closes⟩
      exact others.spells beforeBlank named betweenBlank isSpace spelled
  | some found =>
      have refused : Position.step ⟨.key done, outer⟩ (.scalar (.text key)) =
          .inr (abandon (.object ((key, .absent found) :: done).reverse (.cut found)) outer) := by
        simp [Position.step, Position.openKey, fault]
      rw [refused] at continues
      have broken : (Value.object ((key, .absent found) :: done).reverse (.cut found)).fault? ≠
          none := Option.some_ne_none _
      exact absurd continues (not_continues (fault?_abandon_ne_none broken outer) whole)

theorem finishes_key {done : List Member} (next : nextToken? text = some (token, rest))
    (whole : result.value.fault? = none)
    (continues : Continues (Position.step ⟨.key done, outer⟩ token) rest result) :
    Finishes ⟨.key done, outer⟩ text result := by
  cases token with
  | closeBrace =>
      cases done with
      | nil =>
          obtain ⟨blank, isBlank, rfl⟩ := exists_of_nextToken?_mark next rfl
          exact ⟨blank, [], rest, rfl, Or.inl ⟨isBlank, rfl, rfl⟩, closes_of_continues continues⟩
      | cons last done =>
          have broken := fault?_breakOff_ne_none ⟨.key (last :: done), outer⟩ .malformed
          exact absurd continues (not_continues broken whole)
  | scalar value =>
      cases value with
      | text key => exact finishes_key_text next whole continues
      | word | number | array | object | brokenWord | brokenNumber | absent =>
          have broken := fault?_breakOff_ne_none ⟨.key done, outer⟩ .malformed
          exact absurd continues (not_continues broken whole)
  | openBracket | openBrace | closeBracket | comma | colon | foreign =>
      have broken := fault?_breakOff_ne_none ⟨.key done, outer⟩ .malformed
      exact absurd continues (not_continues broken whole)

theorem finishes_colon {done : List Member} {key : WrittenText}
    (next : nextToken? text = some (token, rest)) (whole : result.value.fault? = none)
    (continues : Continues (Position.step ⟨.colon done key, outer⟩ token) rest result) :
    Finishes ⟨.colon done key, outer⟩ text result := by
  by_cases isColon : token = .colon
  · subst isColon
    obtain ⟨blank, isBlank, rfl⟩ := exists_of_nextToken?_mark next rfl
    exact ⟨blank, rest, isBlank, rfl, continues⟩
  · have refused : Position.step ⟨.colon done key, outer⟩ token =
        .inr (Position.breakOff ⟨.colon done key, outer⟩ .malformed) := by
      cases token <;> first | rfl | exact absurd rfl isColon
    rw [refused] at continues
    exact absurd continues (not_continues (fault?_breakOff_ne_none _ _) whole)

theorem finishes_itemEnd {done : List Value} (next : nextToken? text = some (token, rest))
    (whole : result.value.fault? = none)
    (continues : Continues (Position.step ⟨.itemEnd done, outer⟩ token) rest result) :
    Finishes ⟨.itemEnd done, outer⟩ text result := by
  cases token with
  | comma =>
      obtain ⟨blank, isBlank, rfl⟩ := exists_of_nextToken?_mark next rfl
      obtain ⟨space, body, value, _, isSpace, rfl, spelled, further, items, behind, rfl, others,
        closes⟩ := continues
      exact ⟨blank ++ .char ',' :: (space ++ (body ++ further)), value :: items, behind, by simp,
        .more isBlank (others.spells isSpace spelled), closes⟩
  | closeBracket =>
      obtain ⟨blank, isBlank, rfl⟩ := exists_of_nextToken?_mark next rfl
      exact ⟨blank, [], rest, rfl, .none isBlank, by simpa using closes_of_continues continues⟩
  | openBracket | openBrace | closeBrace | colon | scalar | foreign =>
      have broken := fault?_breakOff_ne_none ⟨.itemEnd done, outer⟩ .malformed
      exact absurd continues (not_continues broken whole)

theorem finishes_memberEnd {done : List Member} (next : nextToken? text = some (token, rest))
    (whole : result.value.fault? = none)
    (continues : Continues (Position.step ⟨.memberEnd done, outer⟩ token) rest result) :
    Finishes ⟨.memberEnd done, outer⟩ text result := by
  intro nonempty
  cases token with
  | comma =>
      obtain ⟨blank, isBlank, rfl⟩ := exists_of_nextToken?_mark next rfl
      obtain ⟨body, members, behind, rfl, ⟨_, nothing, _⟩ | spelled, closes⟩ := continues
      · exact absurd nothing nonempty
      · exact ⟨blank ++ .char ',' :: body, members, behind, by simp, .more isBlank spelled, closes⟩
  | closeBrace =>
      obtain ⟨blank, isBlank, rfl⟩ := exists_of_nextToken?_mark next rfl
      exact ⟨blank, [], rest, rfl, .none isBlank, by simpa using closes_of_continues continues⟩
  | openBracket | openBrace | closeBracket | colon | scalar | foreign =>
      have broken := fault?_breakOff_ne_none ⟨.memberEnd done, outer⟩ .malformed
      exact absurd continues (not_continues broken whole)

/-- A step backwards: if the text after a token finishes the position after the step, the text with
the token finishes the position before. -/
theorem finishes_of_step {position : Position} (next : nextToken? text = some (token, rest))
    (whole : result.value.fault? = none)
    (continues : Continues (position.step token) rest result) :
    Finishes position text result := by
  obtain ⟨expected, outer⟩ := position
  cases expected with
  | value => exact opensAndCloses_of_openValue next whole continues
  | firstItem => exact finishes_firstItem next whole continues
  | key done => exact finishes_key next whole continues
  | colon done key => exact finishes_colon next whole continues
  | itemEnd done => exact finishes_itemEnd next whole continues
  | memberEnd done => exact finishes_memberEnd next whole continues

/-- A text that is read without a fault spells what its position expects. -/
theorem finishes_of_readFrom (position : Position) (text : List Symbol)
    (whole : (readFrom position text).value.fault? = none) :
    Finishes position text (readFrom position text) := by
  fun_induction readFrom position text with
  | case1 position text ended => exact absurd whole (fault?_breakOff_ne_none position .ended)
  | case2 position text token rest next following stepped inductionHypothesis =>
      apply finishes_of_step next whole
      rw [stepped]
      exact inductionHypothesis whole
  | case3 position text token rest next value stepped =>
      apply finishes_of_step next whole
      rw [stepped]
      rfl

/-- A text that is read without fault and without anything behind its value spells this value. -/
theorem spells_of_read {text : List Symbol} {value : Value} (accepted : read text = ⟨value, false⟩)
    (whole : value.fault? = none) : Spells text (.spaced value) := by
  have finished := finishes_of_readFrom .start text
  change (read text).value.fault? = none → Finishes .start text (read text) at finished
  rw [accepted] at finished
  obtain ⟨before, body, _, after, beforeBlank, rfl, spelled, closes⟩ := finished whole
  obtain ⟨rfl, alone⟩ := ReadText.mk.inj closes
  obtain ⟨blank, isBlank, split⟩ := exists_blank_skipSpace after
  have nothing : skipSpace after = [] := by simpa using alone
  rw [nothing, List.append_nil] at split
  rw [split]
  exact .spaced beforeBlank spelled isBlank

theorem fault?_of_spells {text : List Symbol} {value : Value}
    (spelled : Spells text (.spaced value)) : value.fault? = none := by
  cases spelled with
  | spaced _ inner _ =>
      cases inner with
      | text written => exact written.fault_eq
      | _ => rfl

/-- The reader accepts exactly the texts of the grammar, each as the value that it spells. -/
theorem spells_iff {text : List Symbol} {value : Value} :
    Spells text (.spaced value) ↔ read text = ⟨value, false⟩ ∧ value.fault? = none := by
  constructor
  · intro spelled
    exact ⟨read_of_spells spelled, fault?_of_spells spelled⟩
  · intro accepted
    exact spells_of_read accepted.1 accepted.2

/-! ## Decoded texts -/

variable {α : Type}

/-- Decoding a spelled text is decoding the value that it spells. -/
theorem decodeText_of_spells {decode : Decoder α} {text : List Symbol} {value : Value}
    (spelled : Spells text (.spaced value)) : decodeText decode text = decode value := by
  obtain ⟨content, _⟩ := spells_iff.mp spelled
  simp only [decodeText, content]
  cases decode value <;> rfl

theorem closed_of_readItems {expected : String} {ending : Ending} (items : List Value) :
    ∀ {index : Nat} {fields : List (RecordField α)} {record meaning : α},
      readItems expected ending index fields record items = .ok meaning → ending = .closed := by
  induction items with
  | nil =>
      intro index fields record meaning decoded
      cases fields with
      | nil =>
          obtain ⟨_, checked, _⟩ := Decoded.bind_eq_ok.mp decoded
          exact Ending.check_eq_ok.mp checked
      | cons field fields =>
          obtain ⟨_, checked, _⟩ := Decoded.bind_eq_ok.mp decoded
          exact Ending.check_eq_ok.mp checked
  | cons item items inductionHypothesis =>
      intro index fields record meaning decoded
      cases fields with
      | nil => cases decoded
      | cons field fields =>
          obtain ⟨next, _, rest⟩ := Decoded.bind_eq_ok.mp decoded
          exact inductionHypothesis rest

/-- A record is only decoded from an object or a list that is closed. -/
theorem fault?_of_record {name : String} {fields : List (RecordField α)}
    {blank meaning : α} {value : Value} (decoded : record name fields blank value = .ok meaning) :
    value.fault? = none := by
  unfold record at decoded
  split at decoded
  · obtain ⟨_, _, rest⟩ := Decoded.bind_eq_ok.mp decoded
    obtain ⟨_, checked, _⟩ := Decoded.bind_eq_ok.mp rest
    rw [Value.fault?, Ending.check_eq_ok.mp checked, Ending.fault?]
  · rw [Value.fault?, closed_of_readItems _ decoded, Ending.fault?]
  · exact absurd decoded mismatch_ne_ok

/-- A text can only be decoded if it is spelled, unless the decoder takes values that are at fault.
-/
theorem exists_spells_of_decodeText {decode : Decoder α}
    (whole : ∀ {value meaning}, decode value = .ok meaning → value.fault? = none)
    {text : List Symbol} {meaning : α} (decoded : decodeText decode text = .ok meaning) :
    ∃ value, Spells text (.spaced value) := by
  obtain ⟨content, contentDecoded, rest⟩ := Decoded.bind_eq_ok.mp decoded
  have alone : (read text).trailing = false := by
    cases trailing : (read text).trailing with
    | false => rfl
    | true =>
        rw [trailing] at rest
        cases rest
  refine ⟨(read text).value, spells_iff.mpr ⟨?_, whole contentDecoded⟩⟩
  rw [← alone]

end ContentBlocking.Json
