import ContentBlocking.Proofs.Json.Grammar

/-!
# Scanning what is spelled

In front of any rest, the scanners take exactly the text that spells a piece, a number or a token,
and leave the rest. Only a number needs to know the rest, because a digit, a point or an exponent
behind it would belong to it.
-/

namespace ContentBlocking.Json

/-! ## White space -/

theorem skipSpace_append {blank : List Symbol} (isBlank : IsBlank blank) (text : List Symbol) :
    skipSpace (blank ++ text) = skipSpace text := by
  induction blank with
  | nil => rfl
  | cons symbol blank inductionHypothesis =>
      obtain ⟨c, rfl, space⟩ := isBlank symbol List.mem_cons_self
      have restBlank : IsBlank blank := fun other member =>
        isBlank other (List.mem_cons_of_mem _ member)
      rw [List.cons_append, skipSpace, if_pos space, inductionHypothesis restBlank]

theorem nextToken?_append {blank : List Symbol} (isBlank : IsBlank blank) (text : List Symbol) :
    nextToken? (blank ++ text) = nextToken? text := by
  rw [nextToken?, nextToken?, skipSpace_append isBlank]

/-! ## Strings -/

theorem readPieces_piece {text : List Symbol} {piece : Piece} (spelled : SpellsPiece text piece)
    (done : List Piece) (rest : List Symbol) :
    readPieces done (text ++ rest) = readPieces (piece :: done) rest := by
  cases spelled with
  | plain ordinary visible =>
      rename_i c
      simp only [List.mem_cons, List.not_mem_nil, or_false, not_or] at ordinary
      simp [readPieces, ordinary, visible]
  | escaped short =>
      rename_i letter c
      have notUnit : letter ≠ 'u' := by
        rintro rfl
        cases short
      simp [readPieces, notUnit, short]
  | unit digits => simp [readPieces, digits]
  | stray => rfl

/-- The pieces of a spelled string are read back, up to its closing quote. -/
theorem readPieces_append {text : List Symbol} {pieces : List Piece}
    (spelled : SpellsPieces text pieces) (done : List Piece) (rest : List Symbol) :
    readPieces done (text ++ .char '"' :: rest) = (⟨done.reverse ++ pieces, none⟩, rest) := by
  induction spelled generalizing done with
  | nil => simp [readPieces]
  | cons first _ inductionHypothesis =>
      rw [List.append_assoc, readPieces_piece first, inductionHypothesis]
      simp

/-! ## Numbers -/

theorem digitsAfter_append (before : Nat) (digits decimals : List Nat) :
    digitsAfter before (digits ++ decimals) = digitsAfter (digitsAfter before digits) decimals :=
  List.foldl_append

/-- A number ends in front of a text that does not go on with it. -/
def EndsNumber (rest : List Symbol) : Prop :=
  ∀ symbol ∈ rest.head?, decimalDigit? symbol = none ∧
    symbol ∉ [.char '.', .char 'e', .char 'E']

theorem readDigits_append {text rest : List Symbol} {digits : List Nat}
    (spelled : SpellsDigits text digits)
    (stops : ∀ symbol ∈ rest.head?, decimalDigit? symbol = none) (value count : Nat) :
    readDigits value count (text ++ rest) =
      ((digitsAfter value digits, count + digits.length), rest) := by
  induction text generalizing digits value count with
  | nil =>
      have nothing : digits = [] := List.map_eq_nil_iff.mp spelled.symm
      subst nothing
      cases rest with
      | nil => rfl
      | cons symbol rest =>
          rw [List.nil_append, readDigits, stops symbol rfl]
          rfl
  | cons symbol text inductionHypothesis =>
      cases digits with
      | nil => cases spelled
      | cons digit digits =>
          obtain ⟨first, others⟩ := List.cons.inj spelled
          rw [List.cons_append, readDigits, first]
          dsimp only
          rw [inductionHypothesis others, digitsAfter, digitsAfter, List.foldl_cons,
            List.length_cons]
          congr 2
          omega

theorem SpellsDigits.exists_cons {text : List Symbol} {digits : List Nat}
    (spelled : SpellsDigits text digits) (nonempty : digits ≠ []) :
    ∃ symbol rest digit, text = symbol :: rest ∧ decimalDigit? symbol = some digit ∧
      digits.head? = some digit := by
  cases text with
  | nil => exact absurd (List.map_eq_nil_iff.mp spelled.symm) nonempty
  | cons symbol rest =>
      cases digits with
      | nil => exact absurd rfl nonempty
      | cons digit digits => exact ⟨symbol, rest, digit, rfl, (List.cons.inj spelled).1, rfl⟩

theorem readExponentDigits_append {text rest : List Symbol} {digits : List Nat}
    (spelled : SpellsDigits text digits) (nonempty : digits ≠ []) (ends : EndsNumber rest)
    (number : WrittenNumber) (factor : Int) :
    readExponentDigits number factor (text ++ rest) =
      (.number { number with
        exponent := number.exponent + factor * (digitsAfter 0 digits : Nat)
        integral := false }, rest) := by
  have stops : ∀ symbol ∈ rest.head?, decimalDigit? symbol = none := fun symbol first =>
    (ends symbol first).1
  rw [readExponentDigits, readDigits_append spelled stops]
  cases digits with
  | nil => exact absurd rfl nonempty
  | cons digit digits => rw [List.length_cons, Nat.zero_add]

theorem readExponent_append {text rest : List Symbol} {scale : Option Int}
    (spelled : SpellsExponent text scale) (ends : EndsNumber rest) (number : WrittenNumber) :
    readExponent number (text ++ rest) =
      (.number { number with
        exponent := number.exponent + scale.getD 0
        integral := number.integral && scale.isNone }, rest) := by
  cases spelled with
  | absent =>
      have unmarked : readExponent number rest = (.number number, rest) := by
        unfold readExponent
        split <;> simp [EndsNumber] at ends ⊢
      simpa using unmarked
  | present marked nonempty sign digits =>
      have read := readExponentDigits_append digits nonempty ends number
      have letters := marked
      simp only [List.mem_cons, List.not_mem_nil, or_false] at letters
      cases sign with
      | absent =>
          obtain ⟨symbol, others, digit, rfl, isDigit, _⟩ := digits.exists_cons nonempty
          have noSign : symbol ≠ .char '+' ∧ symbol ≠ .char '-' := by
            constructor
            · rintro rfl
              cases isDigit
            · rintro rfl
              cases isDigit
          have unsigned : ∀ letter ∈ ['e', 'E'],
              readExponent number (.char letter :: symbol :: (others ++ rest)) =
                readExponentDigits number 1 (symbol :: (others ++ rest)) := by
            simp [readExponent, noSign]
          rw [List.cons_append, List.nil_append, List.cons_append, unsigned _ marked]
          simpa using read 1
      | plus => rcases letters with rfl | rfl <;> simpa [readExponent] using read 1
      | minus => rcases letters with rfl | rfl <;> simpa [readExponent] using read (-1)

theorem SpellsExponent.noDigit {text rest : List Symbol} {scale : Option Int}
    (spelled : SpellsExponent text scale) (ends : EndsNumber rest) :
    ∀ symbol ∈ (text ++ rest).head?, decimalDigit? symbol = none ∧ symbol ≠ .char '.' := by
  cases spelled with
  | absent =>
      intro symbol first
      have ended := ends symbol first
      exact ⟨ended.1, fun point => ended.2 (by simp [point])⟩
  | present marked nonempty sign digits =>
      intro symbol first
      cases first
      simp only [List.mem_cons, List.not_mem_nil, or_false] at marked
      rcases marked with rfl | rfl
      · exact ⟨rfl, by decide⟩
      · exact ⟨rfl, by decide⟩

theorem readFraction_append {fraction exponent rest : List Symbol} {decimals : List Nat}
    {scale : Option Int} (spelled : SpellsFraction fraction decimals)
    (scaled : SpellsExponent exponent scale) (ends : EndsNumber rest) (negative : Bool)
    (whole : Nat) :
    readFraction ⟨negative, whole, 0, true⟩ (fraction ++ (exponent ++ rest)) =
      (.number
        { negative
          digits := digitsAfter whole decimals
          exponent := scale.getD 0 - decimals.length
          integral := decimals.isEmpty && scale.isNone }, rest) := by
  have follows := scaled.noDigit ends
  cases spelled with
  | absent =>
      have noPoint : readFraction ⟨negative, whole, 0, true⟩ (exponent ++ rest) =
          readExponent ⟨negative, whole, 0, true⟩ (exponent ++ rest) := by
        unfold readFraction
        split
        · rename_i text point
          rw [point] at follows
          exact absurd rfl (follows _ rfl).2
        · rfl
      rw [List.nil_append, noPoint, readExponent_append scaled ends]
      simp [digitsAfter]
  | present nonempty digits =>
      have stops : ∀ symbol ∈ (exponent ++ rest).head?, decimalDigit? symbol = none :=
        fun symbol first => (follows symbol first).1
      cases decimals with
      | nil => exact absurd rfl nonempty
      | cons decimal decimals =>
          rw [List.cons_append, readFraction, readDigits_append digits stops, List.length_cons,
            Nat.zero_add]
          dsimp only
          rw [readExponent_append scaled ends]
          simp
          omega

/-- A spelled number is read back in front of what ends it. -/
theorem readNumber_append {whole fraction exponent rest : List Symbol}
    {digits decimals : List Nat} {scale : Option Int} (nonempty : digits ≠ [])
    (noLeadingZero : digits.head? = some 0 → digits = [0]) (spelled : SpellsDigits whole digits)
    (fractional : SpellsFraction fraction decimals) (scaled : SpellsExponent exponent scale)
    (ends : EndsNumber rest) (negative : Bool) :
    readNumber negative (whole ++ (fraction ++ (exponent ++ rest))) =
      (.number
        { negative
          digits := digitsAfter 0 (digits ++ decimals)
          exponent := scale.getD 0 - decimals.length
          integral := decimals.isEmpty && scale.isNone }, rest) := by
  have read := readFraction_append fractional scaled ends negative (digitsAfter 0 digits)
  rw [← digitsAfter_append] at read
  have stops : ∀ symbol ∈ (fraction ++ (exponent ++ rest)).head?, decimalDigit? symbol = none := by
    cases fractional with
    | absent => exact fun symbol first => (scaled.noDigit ends symbol first).1
    | present _ _ =>
        intro symbol first
        cases first
        rfl
  obtain ⟨symbol, others, digit, rfl, isDigit, first⟩ := spelled.exists_cons nonempty
  by_cases zero : symbol = .char '0'
  · subst zero
    cases isDigit
    have single : digits = [0] := noLeadingZero first
    subst single
    have alone : others = [] := List.map_eq_nil_iff.mp (List.cons.inj spelled).2
    subst alone
    have noDigit : ((fraction ++ (exponent ++ rest)).head?.bind decimalDigit?).isSome = false := by
      rw [Option.isSome_eq_false_iff, Option.isNone_iff_eq_none, Option.bind_eq_none_iff]
      exact stops
    rw [List.cons_append, List.nil_append, readNumber, noDigit]
    exact read
  · have counted : readNumber negative (symbol :: (others ++ (fraction ++ (exponent ++ rest)))) =
        readFraction ⟨negative, digitsAfter 0 digits, 0, true⟩
          (fraction ++ (exponent ++ rest)) := by
      have taken := readDigits_append spelled stops 0 0
      rw [List.cons_append] at taken
      unfold readNumber
      split
      · rename_i starts
        exact absurd (List.cons.inj starts).1 zero
      · rw [taken]
        cases digits with
        | nil => exact absurd rfl nonempty
        | cons digit digits => simp
    rw [List.cons_append, counted]
    exact read

/-! ## Tokens -/

theorem readToken_digit {symbol : Symbol} {digit : Nat}
    (isDigit : decimalDigit? symbol = some digit) (rest : List Symbol) :
    readToken symbol rest =
      (.scalar (readNumber false (symbol :: rest)).1, (readNumber false (symbol :: rest)).2) := by
  unfold readToken
  split
  all_goals first
    | cases isDigit
    | skip
  rw [isDigit]
  rfl

theorem nextToken?_digit {symbol : Symbol} {digit : Nat}
    (isDigit : decimalDigit? symbol = some digit) (rest : List Symbol) :
    nextToken? (symbol :: rest) = some (readToken symbol rest) := by
  have visible : skipSpace (symbol :: rest) = symbol :: rest := by
    unfold skipSpace
    split
    · rename_i c _ starts
      cases starts
      split
      · rename_i space
        simp only [isSpace, Bool.or_eq_true, decide_eq_true_eq] at space
        rcases space with ((rfl | rfl) | rfl) | rfl <;> cases isDigit
      · rfl
    · rfl
  rw [nextToken?, visible]

/-- A spelled number is the next token in front of what ends it. -/
theorem nextToken?_number {text rest : List Symbol} {number : WrittenNumber}
    (spelled : SpellsNumber text number) (ends : EndsNumber rest) :
    nextToken? (text ++ rest) = some (.scalar (.number number), rest) := by
  cases spelled with
  | parts negative nonempty noLeadingZero digits fractional scaled =>
      have read := readNumber_append nonempty noLeadingZero digits fractional scaled ends
      cases negative with
      | true =>
          have token : ∀ text, nextToken? (.char '-' :: text) =
              some (.scalar (readNumber true text).1, (readNumber true text).2) := fun _ => rfl
          simp [token, read]
      | false =>
          obtain ⟨symbol, others, digit, rfl, isDigit, _⟩ := digits.exists_cons nonempty
          have whole := read false
          simp only [List.cons_append] at whole
          simp [nextToken?_digit isDigit, readToken_digit isDigit, whole]

theorem nextToken?_word (word : Word) (rest : List Symbol) :
    nextToken? (word.letters.map .char ++ rest) = some (.scalar (.word word), rest) := by
  cases word <;> rfl

theorem nextToken?_text {text : List Symbol} {written : WrittenText}
    (spelled : SpellsText text written) (rest : List Symbol) :
    nextToken? (text ++ rest) = some (.scalar (.text written), rest) := by
  cases spelled with
  | quoted pieces =>
      have token : ∀ text, nextToken? (.char '"' :: text) =
          some (.scalar (.text (readPieces [] text).1), (readPieces [] text).2) := fun _ => rfl
      rw [List.cons_append, List.append_assoc, List.singleton_append, token,
        readPieces_append pieces]
      rfl

/-- The character of a token that has only one spelling. -/
def Token.mark? : Token → Option Char
  | .openBracket => some '['
  | .closeBracket => some ']'
  | .openBrace => some '\x7b'
  | .closeBrace => some '\x7d'
  | .comma => some ','
  | .colon => some ':'
  | .scalar _ | .foreign => none

theorem nextToken?_mark {token : Token} {c : Char} (marked : token.mark? = some c)
    (rest : List Symbol) : nextToken? (.char c :: rest) = some (token, rest) := by
  cases token <;> cases marked <;> rfl

end ContentBlocking.Json
