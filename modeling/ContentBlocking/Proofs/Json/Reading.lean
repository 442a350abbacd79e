import ContentBlocking.Proofs.Json.Spelling

/-!
# What is spelled is read

Inside any open values and in front of any rest, the reader takes exactly the text that spells a
phrase. There is one lemma for each rule of the grammar. The text of a value never begins with a
closing bracket, so it may stand where a list may also end.
-/

namespace ContentBlocking.Json

def resume : Position ⊕ Value → List Symbol → ReadText
  | .inl position, text => readFrom position text
  | .inr value, text => ⟨value, !(skipSpace text).isEmpty⟩

theorem readFrom_of_nextToken? {position : Position} {text rest : List Symbol} {token : Token}
    (next : nextToken? text = some (token, rest)) :
    readFrom position text = resume (position.step token) rest := by
  rw [readFrom]
  split
  · rename_i ended
    rw [next] at ended
    cases ended
  · rename_i known
    rw [next] at known
    cases known
    split
    · rename_i stepped
      rw [stepped]
      rfl
    · rename_i stepped
      rw [stepped]
      rfl

theorem readFrom_mark (token : Token) {c : Char} (marked : token.mark? = some c)
    (position : Position) (rest : List Symbol) :
    readFrom position (.char c :: rest) = resume (position.step token) rest :=
  readFrom_of_nextToken? (nextToken?_mark marked rest)

/-- Blanks in front of a text do not count. -/
theorem readFrom_append {blank : List Symbol} (isBlank : IsBlank blank) (position : Position)
    (text : List Symbol) : readFrom position (blank ++ text) = readFrom position text := by
  have same := nextToken?_append isBlank text
  cases next : nextToken? text with
  | none =>
      rw [next] at same
      rw [readFrom, readFrom]
      split
      · split
        · rfl
        · rename_i known
          rw [next] at known
          cases known
      · rename_i known
        rw [same] at known
        cases known
  | some taken =>
      obtain ⟨token, rest⟩ := taken
      rw [readFrom_of_nextToken? (same.trans next), readFrom_of_nextToken? next]

theorem resume_append {blank : List Symbol} (isBlank : IsBlank blank) (outcome : Position ⊕ Value)
    (text : List Symbol) : resume outcome (blank ++ text) = resume outcome text := by
  cases outcome with
  | inl position => exact readFrom_append isBlank position text
  | inr value => rw [resume, resume, skipSpace_append isBlank]

/-! ## What is spelled is read -/

theorem EndsNumber.append {blank rest : List Symbol} (ends : EndsNumber rest)
    (isBlank : IsBlank blank) : EndsNumber (blank ++ rest) := by
  cases blank with
  | nil => exact ends
  | cons symbol blank =>
      intro first isFirst
      cases isFirst
      obtain ⟨c, rfl, space⟩ := isBlank symbol List.mem_cons_self
      simp only [isSpace, Bool.or_eq_true, decide_eq_true_eq] at space
      rcases space with ((rfl | rfl) | rfl) | rfl <;> decide

theorem endsNumber_cons {c : Char} (closing : c ∈ [',', ']', '\x7d']) (rest : List Symbol) :
    EndsNumber (.char c :: rest) := by
  intro first isFirst
  cases isFirst
  simp only [List.mem_cons, List.not_mem_nil, or_false] at closing
  rcases closing with rfl | rfl | rfl <;> decide

theorem SpellsText.fault_eq {text : List Symbol} {written : WrittenText}
    (spelled : SpellsText text written) : written.fault = none := by
  cases spelled
  rfl

/-- The text begins with a token that opens a value, and from there on the result is reached. -/
def OpensTo (outer : List Frame) (text : List Symbol) (result : ReadText) : Prop :=
  ∃ token rest, nextToken? text = some (token, rest) ∧ token.mark? ≠ some ']' ∧
    resume (Position.openValue outer token) rest = result

theorem OpensTo.readFrom_value {outer : List Frame} {text : List Symbol} {result : ReadText}
    (opens : OpensTo outer text result) : readFrom ⟨.value, outer⟩ text = result := by
  obtain ⟨token, rest, next, _, rfl⟩ := opens
  rw [readFrom_of_nextToken? next]
  rfl

theorem OpensTo.readFrom_firstItem {outer : List Frame} {text : List Symbol} {result : ReadText}
    (opens : OpensTo (.array [] :: outer) text result) :
    readFrom ⟨.firstItem, outer⟩ text = result := by
  obtain ⟨token, rest, next, inside, rfl⟩ := opens
  rw [readFrom_of_nextToken? next]
  cases token with
  | closeBracket => exact absurd rfl inside
  | _ => rfl

theorem OpensTo.append {outer : List Frame} {blank text : List Symbol} {result : ReadText}
    (opens : OpensTo outer text result) (isBlank : IsBlank blank) :
    OpensTo outer (blank ++ text) result := by
  obtain ⟨token, rest, next, inside, reached⟩ := opens
  exact ⟨token, rest, (nextToken?_append isBlank text).trans next, inside, reached⟩

/-- The reader takes the text for the phrase, whatever values are open around it. -/
def IsReadAs (text : List Symbol) : Phrase → Prop
  | .value value | .spaced value =>
      ∀ outer rest, EndsNumber rest →
        OpensTo outer (text ++ rest) (resume (Position.complete value outer) rest)
  | .items items =>
      ∀ done outer rest,
        OpensTo (.array done :: outer) (text ++ .char ']' :: rest)
          (resume (Position.complete (.array (done.reverse ++ items) .closed) outer) rest)
  | .member member =>
      ∀ done outer rest, EndsNumber rest →
        readFrom ⟨.key done, outer⟩ (text ++ rest) =
          readFrom ⟨.memberEnd (member :: done), outer⟩ rest
  | .members members =>
      ∀ done outer rest,
        readFrom ⟨.key done, outer⟩ (text ++ .char '\x7d' :: rest) =
          resume (Position.complete (.object (done.reverse ++ members) .closed) outer) rest

theorem opensTo_mark (token : Token) {c : Char} (marked : token.mark? = some c) (inside : c ≠ ']')
    (outer : List Frame) (text : List Symbol) :
    OpensTo outer (.char c :: text) (resume (Position.openValue outer token) text) :=
  ⟨token, text, nextToken?_mark marked text, by simpa [marked] using inside, rfl⟩

theorem opensTo_scalar {value : Value} {text rest : List Symbol} (outer : List Frame)
    (next : nextToken? (text ++ rest) = some (.scalar value, rest)) (whole : value.fault? = none) :
    OpensTo outer (text ++ rest) (resume (Position.complete value outer) rest) := by
  refine ⟨.scalar value, rest, next, by simp [Token.mark?], ?_⟩
  rw [Position.openValue, whole]

namespace IsReadAs

variable {text rest : List Symbol} {value : Value} {items : List Value} {first : Member}
  {members : List Member}

theorem emptyArray {blank : List Symbol} (isBlank : IsBlank blank) :
    IsReadAs (.char '[' :: (blank ++ [.char ']'])) (.value (.array [] .closed)) := by
  intro outer behind _
  have opened := opensTo_mark .openBracket rfl (by decide) outer (blank ++ .char ']' :: behind)
  rw [Position.openValue, resume, readFrom_append isBlank,
    readFrom_mark .closeBracket rfl] at opened
  simpa [Position.step] using opened

theorem array (read : IsReadAs text (.items items)) :
    IsReadAs (.char '[' :: (text ++ [.char ']'])) (.value (.array items .closed)) := by
  intro outer behind _
  have opened := opensTo_mark .openBracket rfl (by decide) outer (text ++ .char ']' :: behind)
  rw [Position.openValue, resume, (read [] outer behind).readFrom_firstItem] at opened
  simpa using opened

theorem emptyObject {blank : List Symbol} (isBlank : IsBlank blank) :
    IsReadAs (.char '\x7b' :: (blank ++ [.char '\x7d'])) (.value (.object [] .closed)) := by
  intro outer behind _
  have opened := opensTo_mark .openBrace rfl (by decide) outer (blank ++ .char '\x7d' :: behind)
  rw [Position.openValue, resume, readFrom_append isBlank, readFrom_mark .closeBrace rfl] at opened
  simpa [Position.step, Position.openKey] using opened

theorem object (read : IsReadAs text (.members members)) :
    IsReadAs (.char '\x7b' :: (text ++ [.char '\x7d'])) (.value (.object members .closed)) := by
  intro outer behind _
  have opened := opensTo_mark .openBrace rfl (by decide) outer (text ++ .char '\x7d' :: behind)
  rw [Position.openValue, resume, read [] outer behind] at opened
  simpa using opened

theorem spaced {before after : List Symbol} (beforeBlank : IsBlank before)
    (read : IsReadAs text (.value value)) (afterBlank : IsBlank after) :
    IsReadAs (before ++ (text ++ after)) (.spaced value) := by
  intro outer behind ends
  have opened := (read outer (after ++ behind) (ends.append afterBlank)).append beforeBlank
  rw [resume_append afterBlank] at opened
  simpa using opened

theorem lastItem (read : IsReadAs text (.spaced value)) : IsReadAs text (.items [value]) := by
  intro done outer behind
  have opened := read (.array done :: outer) (.char ']' :: behind) (endsNumber_cons (by decide) _)
  rw [Position.complete, resume, readFrom_mark .closeBracket rfl] at opened
  simpa [Position.step] using opened

theorem item (read : IsReadAs text (.spaced value)) (others : IsReadAs rest (.items items)) :
    IsReadAs (text ++ .char ',' :: rest) (.items (value :: items)) := by
  intro done outer behind
  have opened := read (.array done :: outer) (.char ',' :: (rest ++ .char ']' :: behind))
    (endsNumber_cons (by decide) _)
  have later := (others (value :: done) outer behind).readFrom_value
  have goesOn : resume (Position.step ⟨.itemEnd (value :: done), outer⟩ .comma)
      (rest ++ .char ']' :: behind) = _ := later
  rw [Position.complete, resume, readFrom_mark .comma rfl, goesOn] at opened
  simpa using opened

theorem member {before name between : List Symbol} {key : WrittenText}
    (beforeBlank : IsBlank before) (named : SpellsText name key) (betweenBlank : IsBlank between)
    (read : IsReadAs text (.spaced value)) :
    IsReadAs (before ++ (name ++ (between ++ .char ':' :: text))) (.member (key, value)) := by
  intro done outer behind ends
  have opened := (read (.object done key :: outer) behind ends).readFrom_value
  have keyed : Position.step ⟨.key done, outer⟩ (.scalar (.text key)) =
      .inl ⟨.colon done key, outer⟩ := by
    simp [Position.step, Position.openKey, named.fault_eq]
  have valued : resume (Position.step ⟨.colon done key, outer⟩ .colon) (text ++ behind) = _ :=
    opened
  simp only [List.append_assoc, List.cons_append]
  rw [readFrom_append beforeBlank, readFrom_of_nextToken? (nextToken?_text named _), keyed, resume,
    readFrom_append betweenBlank, readFrom_mark .colon rfl, valued]
  rfl

theorem lastMember (read : IsReadAs text (.member first)) :
    IsReadAs text (.members [first]) := by
  intro done outer behind
  rw [read done outer _ (endsNumber_cons (by decide) _), readFrom_mark .closeBrace rfl]
  simp [Position.step]

theorem moreMembers (read : IsReadAs text (.member first))
    (others : IsReadAs rest (.members members)) :
    IsReadAs (text ++ .char ',' :: rest) (.members (first :: members)) := by
  intro done outer behind
  have goesOn : resume (Position.step ⟨.memberEnd (first :: done), outer⟩ .comma)
      (rest ++ .char '\x7d' :: behind) = _ := others (first :: done) outer behind
  rw [List.append_assoc, List.cons_append, read done outer _ (endsNumber_cons (by decide) _),
    readFrom_mark .comma rfl, goesOn]
  simp

end IsReadAs

/-- The reader takes every text of the grammar for the phrase that it spells. -/
theorem isReadAs_of_spells {text : List Symbol} {phrase : Phrase} (spelled : Spells text phrase) :
    IsReadAs text phrase := by
  induction spelled with
  | word word =>
      intro outer rest _
      exact opensTo_scalar outer (nextToken?_word word rest) rfl
  | number number =>
      intro outer rest ends
      exact opensTo_scalar outer (nextToken?_number number ends) rfl
  | text written =>
      intro outer rest _
      exact opensTo_scalar outer (nextToken?_text written rest) written.fault_eq
  | emptyArray blank => exact .emptyArray blank
  | array _ read => exact read.array
  | emptyObject blank => exact .emptyObject blank
  | object _ read => exact read.object
  | spaced before _ after read => exact .spaced before read after
  | lastItem _ read => exact read.lastItem
  | item _ _ read others => exact read.item others
  | member before name between _ read => exact .member before name between read
  | lastMember _ read => exact read.lastMember
  | moreMembers _ _ read others => exact read.moreMembers others

/-- A text that spells a value with white space around it is read as this value. -/
theorem read_of_spells {text : List Symbol} {value : Value}
    (spelled : Spells text (.spaced value)) :
    read text = ⟨value, false⟩ := by
  have opened := isReadAs_of_spells spelled [] [] (by simp [EndsNumber])
  rw [List.append_nil] at opened
  exact opened.readFrom_value

end ContentBlocking.Json
