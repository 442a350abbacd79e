import ContentBlocking.Proofs.Json.Scanning

/-!
# What the scanners take is spelled

If a scanner finds no fault, the text that it has taken spells what it has made of it.
-/

namespace ContentBlocking.Json

/-! ## White space and strings -/

theorem exists_blank_skipSpace (text : List Symbol) :
    ∃ blank, IsBlank blank ∧ text = blank ++ skipSpace text := by
  fun_induction skipSpace text with
  | case1 c rest space inductionHypothesis =>
      obtain ⟨blank, isBlank, split⟩ := inductionHypothesis
      refine ⟨.char c :: blank, ?_, congrArg (.char c :: ·) split⟩
      intro symbol member
      rcases List.mem_cons.mp member with rfl | inside
      · exact ⟨c, rfl, space⟩
      · exact isBlank symbol inside
  | case2 c rest visible => exact ⟨[], by simp [IsBlank], rfl⟩
  | case3 text other => exact ⟨[], by simp [IsBlank], rfl⟩

theorem SpellsPiece.exists_cons {first text : List Symbol} {piece : Piece}
    (spelled : SpellsPiece first piece)
    (later : ∃ body pieces rest, text = body ++ .char '"' :: rest ∧ SpellsPieces body pieces) :
    ∃ body pieces rest, first ++ text = body ++ .char '"' :: rest ∧ SpellsPieces body pieces := by
  obtain ⟨body, pieces, rest, rfl, others⟩ := later
  exact ⟨first ++ body, piece :: pieces, rest, by rw [List.append_assoc], .cons spelled others⟩

/-- What stands in front of the closing quote of a string spells pieces. -/
theorem exists_spellsPieces {done : List Piece} {text : List Symbol}
    (closed : (readPieces done text).1.fault = none) :
    ∃ body pieces rest, text = body ++ .char '"' :: rest ∧ SpellsPieces body pieces := by
  fun_induction readPieces done text with
  | case2 done rest => exact ⟨[], [], rest, rfl, .nil⟩
  | case3 done first second third fourth rest value digits inductionHypothesis =>
      exact SpellsPiece.exists_cons (.unit digits) (inductionHypothesis closed)
  | case6 done rest letter _ _ c short inductionHypothesis =>
      exact SpellsPiece.exists_cons (.escaped short) (inductionHypothesis closed)
  | case10 done rest inductionHypothesis =>
      exact SpellsPiece.exists_cons .stray (inductionHypothesis closed)
  | case12 done c rest noQuote _ _ noEscape noEnd noStray visible inductionHypothesis =>
      have noBackslash : c ≠ '\\' := by
        intro backslash
        rcases rest with _ | ⟨_ | _, rest⟩
        · exact noEnd rfl backslash
        · exact noEscape _ _ rfl backslash
        · exact noStray _ rfl backslash
      have ordinary : c ∉ ['"', '\\'] := by
        simpa using ⟨noQuote, noBackslash⟩
      exact SpellsPiece.exists_cons (.plain ordinary visible) (inductionHypothesis closed)
  | case1 | case4 | case5 | case7 | case8 | case9 | case11 => cases closed

/-! ## Numbers -/

theorem exists_spellsDigits (value count : Nat) (text : List Symbol) :
    ∃ body digits rest, text = body ++ rest ∧ SpellsDigits body digits ∧
      readDigits value count text = ((digitsAfter value digits, count + digits.length), rest) := by
  fun_induction readDigits value count text with
  | case1 value count => exact ⟨[], [], [], rfl, rfl, rfl⟩
  | case2 value count symbol rest digit isDigit inductionHypothesis =>
      obtain ⟨body, digits, others, rfl, spelled, read⟩ := inductionHypothesis
      refine ⟨symbol :: body, digit :: digits, others, rfl, ?_, ?_⟩
      · rw [SpellsDigits, List.map_cons, List.map_cons, isDigit, spelled]
      · rw [read, List.length_cons, digitsAfter, digitsAfter, List.foldl_cons]
        congr 2
        omega
  | case3 value count symbol rest noDigit => exact ⟨[], [], symbol :: rest, rfl, rfl, rfl⟩

theorem exists_spellsExponentDigits {number : WrittenNumber} {factor : Int}
    {text rest : List Symbol} {value : Value} (read : readExponentDigits number factor text = (value, rest))
    (whole : value.fault? = none) :
    ∃ body digits, text = body ++ rest ∧ digits ≠ [] ∧ SpellsDigits body digits ∧
      value = .number { number with
        exponent := number.exponent + factor * (digitsAfter 0 digits : Nat)
        integral := false } := by
  obtain ⟨body, digits, others, rfl, spelled, taken⟩ := exists_spellsDigits 0 0 text
  rw [readExponentDigits, taken] at read
  cases digits with
  | nil =>
      cases read
      cases whole
  | cons digit digits =>
      simp only [List.length_cons, Nat.zero_add] at read
      cases read
      exact ⟨body, digit :: digits, rfl, List.cons_ne_nil _ _, spelled, rfl⟩

theorem SpellsSign.exists_spellsExponent {number : WrittenNumber} {letter : Char}
    {sign text rest : List Symbol} {factor : Int} {value : Value} (signed : SpellsSign sign factor)
    (marked : letter ∈ ['e', 'E']) (read : readExponentDigits number factor text = (value, rest))
    (whole : value.fault? = none) :
    ∃ body scale, .char letter :: (sign ++ text) = body ++ rest ∧ SpellsExponent body scale ∧
      value = .number { number with
        exponent := number.exponent + scale.getD 0
        integral := number.integral && scale.isNone } := by
  obtain ⟨body, digits, rfl, nonempty, spelled, same⟩ := exists_spellsExponentDigits read whole
  refine ⟨.char letter :: (sign ++ body), some (factor * (digitsAfter 0 digits : Nat)), ?_,
    .present marked nonempty signed spelled, ?_⟩
  · rw [List.cons_append, List.append_assoc]
  · simpa using same

theorem exists_spellsExponent {number : WrittenNumber} {text rest : List Symbol} {value : Value}
    (read : readExponent number text = (value, rest)) (whole : value.fault? = none) :
    ∃ body scale, text = body ++ rest ∧ SpellsExponent body scale ∧
      value = .number { number with
        exponent := number.exponent + scale.getD 0
        integral := number.integral && scale.isNone } := by
  unfold readExponent at read
  split at read
  · exact SpellsSign.plus.exists_spellsExponent (by decide) read whole
  · exact SpellsSign.plus.exists_spellsExponent (by decide) read whole
  · exact SpellsSign.minus.exists_spellsExponent (by decide) read whole
  · exact SpellsSign.minus.exists_spellsExponent (by decide) read whole
  · exact SpellsSign.absent.exists_spellsExponent (by decide) read whole
  · exact SpellsSign.absent.exists_spellsExponent (by decide) read whole
  · cases read
    exact ⟨[], none, rfl, .absent, by simp⟩

theorem exists_spellsFraction {negative : Bool} {start : Nat} {text rest : List Symbol}
    {value : Value} (read : readFraction ⟨negative, start, 0, true⟩ text = (value, rest))
    (whole : value.fault? = none) :
    ∃ fraction exponent decimals scale, text = fraction ++ (exponent ++ rest) ∧
      SpellsFraction fraction decimals ∧ SpellsExponent exponent scale ∧
      value = .number
        { negative
          digits := digitsAfter start decimals
          exponent := scale.getD 0 - decimals.length
          integral := decimals.isEmpty && scale.isNone } := by
  unfold readFraction at read
  split at read
  · rename_i text
    obtain ⟨fraction, decimals, others, rfl, spelled, taken⟩ := exists_spellsDigits start 0 text
    dsimp only at read
    rw [taken] at read
    cases decimals with
    | nil =>
        cases read
        cases whole
    | cons decimal decimals =>
        simp only [List.length_cons, Nat.zero_add] at read
        obtain ⟨exponent, scale, rfl, scaled, rfl⟩ := exists_spellsExponent read whole
        refine ⟨.char '.' :: fraction, exponent, decimal :: decimals, scale, rfl,
          .present (List.cons_ne_nil _ _) spelled, scaled, ?_⟩
        simp
        omega
  · obtain ⟨exponent, scale, rfl, scaled, rfl⟩ := exists_spellsExponent read whole
    exact ⟨[], exponent, [], scale, rfl, .absent, scaled, by simp [digitsAfter]⟩

theorem eq_zero_of_decimalDigit? {symbol : Symbol} (isZero : decimalDigit? symbol = some 0) :
    symbol = .char '0' := by
  unfold decimalDigit? at isZero
  split at isZero
  · cases isZero
  · rename_i c
    split at isZero
    · rename_i digit
      have bounds : 48 ≤ c.toNat := by
        simp only [Bool.and_eq_true, decide_eq_true_eq] at digit
        exact digit.1
      have code : c.toNat = '0'.toNat := by
        have difference : c.toNat - 48 = 0 := Option.some.inj isZero
        have zero : '0'.toNat = 48 := rfl
        omega
      rw [Char.toNat_inj.mp code]
    · cases isZero

/-- A number that is read without a fault has been spelled. -/
theorem exists_spellsNumber {negative : Bool} {text rest : List Symbol} {value : Value}
    (read : readNumber negative text = (value, rest)) (whole : value.fault? = none) :
    ∃ body number, text = body ++ rest ∧ value = .number number ∧
      SpellsNumber ((if negative then [.char '-'] else []) ++ body) number := by
  unfold readNumber at read
  split at read
  · rename_i text
    split at read
    · cases read
      cases whole
    · obtain ⟨fraction, exponent, decimals, scale, rfl, fractional, scaled, rfl⟩ :=
        exists_spellsFraction read whole
      refine ⟨[.char '0'] ++ (fraction ++ exponent), _, by simp, rfl, ?_⟩
      have zero : SpellsDigits [.char '0'] [0] := rfl
      exact .parts negative (List.cons_ne_nil _ _) (fun _ => rfl) zero fractional scaled
  · rename_i notZero
    obtain ⟨body, digits, others, rfl, spelled, taken⟩ := exists_spellsDigits 0 0 text
    rw [taken] at read
    cases digits with
    | nil =>
        cases read
        cases whole
    | cons digit digits =>
        simp only [List.length_cons, Nat.zero_add] at read
        obtain ⟨fraction, exponent, decimals, scale, rfl, fractional, scaled, rfl⟩ :=
          exists_spellsFraction read whole
        refine ⟨body ++ (fraction ++ exponent), _, by simp, rfl, ?_⟩
        rw [← digitsAfter_append]
        refine .parts negative (List.cons_ne_nil _ _) ?_ spelled fractional scaled
        intro leading
        obtain ⟨symbol, behind, _, rfl, isDigit, first⟩ :=
          spelled.exists_cons (List.cons_ne_nil _ _)
        rw [leading] at first
        cases first
        exact absurd (congrArg (· :: (behind ++ (fraction ++ (exponent ++ rest))))
          (eq_zero_of_decimalDigit? isDigit)) (notZero _)

/-! ## Tokens -/

theorem readWord_eq {word : Word} {letters : List Char} {text rest : List Symbol}
    {value : Value} (read : readWord word letters text = (value, rest))
    (whole : value.fault? = none) :
    text = letters.map .char ++ rest ∧ value = .word word := by
  fun_induction readWord word letters text with
  | case1 =>
      cases read
      exact ⟨rfl, rfl⟩
  | case2 =>
      cases read
      cases whole
  | case3 expected more rest inductionHypothesis =>
      obtain ⟨rfl, same⟩ := inductionHypothesis read
      exact ⟨rfl, same⟩
  | case4 =>
      cases read
      cases whole

theorem exists_spellsWord {word : Word} {first : Char} {letters : List Char}
    {text rest : List Symbol} {value : Value} (spelling : word.letters = first :: letters)
    (read : readWord word letters text = (value, rest)) (whole : value.fault? = none) :
    ∃ body, .char first :: text = body ++ rest ∧ Spells body (.value value) := by
  obtain ⟨rfl, rfl⟩ := readWord_eq read whole
  refine ⟨word.letters.map .char, ?_, .word word⟩
  rw [spelling]
  rfl

theorem exists_spellsText {text : List Symbol} (closed : (readPieces [] text).1.fault = none) :
    ∃ body, .char '"' :: text = body ++ (readPieces [] text).2 ∧
      SpellsText body (readPieces [] text).1 := by
  obtain ⟨body, pieces, rest, rfl, spelled⟩ := exists_spellsPieces closed
  rw [readPieces_append spelled]
  exact ⟨.char '"' :: (body ++ [.char '"']), by simp, .quoted spelled⟩

/-- The next token begins behind blanks. -/
theorem exists_blank_of_nextToken? {text rest : List Symbol} {token : Token}
    (next : nextToken? text = some (token, rest)) :
    ∃ blank first tail, IsBlank blank ∧ text = blank ++ first :: tail ∧
      readToken first tail = (token, rest) := by
  obtain ⟨blank, isBlank, split⟩ := exists_blank_skipSpace text
  unfold nextToken? at next
  split at next
  · cases next
  · rename_i first tail shown
    rw [shown] at split
    exact ⟨blank, first, tail, isBlank, split, Option.some.inj next⟩

theorem exists_of_nextToken?_mark {text rest : List Symbol} {token : Token} {c : Char}
    (next : nextToken? text = some (token, rest)) (marked : token.mark? = some c) :
    ∃ blank, IsBlank blank ∧ text = blank ++ .char c :: rest := by
  obtain ⟨blank, first, tail, isBlank, rfl, read⟩ := exists_blank_of_nextToken? next
  refine ⟨blank, isBlank, ?_⟩
  unfold readToken at read
  split at read
  case h_12 =>
    split at read
    all_goals
      cases read
      cases marked
  all_goals
    cases read
    cases marked
    try rfl

/-- A token without a fault that is a whole value has been spelled. -/
theorem exists_of_readToken_scalar {first : Symbol} {text rest : List Symbol} {value : Value}
    (read : readToken first text = (.scalar value, rest)) (whole : value.fault? = none) :
    ∃ body, first :: text = body ++ rest ∧ Spells body (.value value) := by
  unfold readToken at read
  split at read
  case h_7 =>
    cases read
    obtain ⟨body, split, spelled⟩ := exists_spellsText whole
    exact ⟨body, split, .text spelled⟩
  case h_8 =>
    cases read
    exact exists_spellsWord rfl rfl whole
  case h_9 =>
    cases read
    exact exists_spellsWord rfl rfl whole
  case h_10 =>
    cases read
    exact exists_spellsWord rfl rfl whole
  case h_11 =>
    cases read
    obtain ⟨body, number, split, same, spelled⟩ :=
      exists_spellsNumber (Prod.eta (readNumber true text)).symm whole
    rw [same]
    exact ⟨.char '-' :: body, congrArg (.char '-' :: ·) split, .number spelled⟩
  case h_12 =>
    split at read
    · cases read
      obtain ⟨body, number, split, same, spelled⟩ :=
        exists_spellsNumber (Prod.eta (readNumber false (first :: text))).symm whole
      rw [same]
      exact ⟨body, split, .number spelled⟩
    · cases read
  all_goals cases read

/-- A token that is a complete value is spelled by what the reader has taken for it. -/
theorem exists_of_nextToken?_scalar {text rest : List Symbol} {value : Value}
    (next : nextToken? text = some (.scalar value, rest)) (whole : value.fault? = none) :
    ∃ blank body, IsBlank blank ∧ text = blank ++ (body ++ rest) ∧ Spells body (.value value) := by
  obtain ⟨blank, first, tail, isBlank, rfl, read⟩ := exists_blank_of_nextToken? next
  obtain ⟨body, split, spelled⟩ := exists_of_readToken_scalar read whole
  exact ⟨blank, body, isBlank, by rw [split], spelled⟩

end ContentBlocking.Json
