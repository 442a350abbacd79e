import ContentBlocking.Json.Value

/-!
# Tokens of JSON texts

The next token of a text, together with what follows it. White space is a space, a tab, a line feed
or a carriage return.
-/

namespace ContentBlocking.Json

inductive Token where
  | openBracket
  | closeBracket
  | openBrace
  | closeBrace
  | comma
  | colon
  /-- A word, a number or a string, perhaps only the beginning of one. -/
  | scalar (value : Value)
  /-- Something that starts no token. -/
  | foreign

/-- Whether a character may stand between tokens. -/
def isSpace (c : Char) : Bool := c = ' ' || c = '\t' || c = '\n' || c = '\r'

def skipSpace : List Symbol → List Symbol
  | .char c :: rest => if isSpace c then skipSpace rest else .char c :: rest
  | text => text

def readWord (word : Word) : List Char → List Symbol → Value × List Symbol
  | [], text => (.word word, text)
  | _ :: _, [] => (.brokenWord word .ended, [])
  | expected :: more, symbol :: rest =>
      if symbol = .char expected then readWord word more rest
      else (.brokenWord word .malformed, rest)

/-! ## Strings -/

def hexDigit? : Symbol → Option Nat
  | .stray => none
  | .char c =>
      if '0' ≤ c && c ≤ '9' then some (c.toNat - 48)
      else if 'a' ≤ c && c ≤ 'f' then some (c.toNat - 87)
      else if 'A' ≤ c && c ≤ 'F' then some (c.toNat - 55)
      else none

def shortEscape? (c : Char) : Option Char :=
  match c with
  | '"' => some '"'
  | '\\' => some '\\'
  | '/' => some '/'
  | 'b' => some '\x08'
  | 'f' => some '\x0c'
  | 'n' => some '\n'
  | 'r' => some '\r'
  | 't' => some '\t'
  | _ => none

/-- The unit that four hexadecimal digits write. -/
def hexUnit? (first second third fourth : Symbol) : Option Nat := do
  let first ← hexDigit? first
  let second ← hexDigit? second
  let third ← hexDigit? third
  let fourth ← hexDigit? fourth
  return ((first * 16 + second) * 16 + third) * 16 + fourth

/-- The fault of an escape that lacks its four digits: less than four bytes are left, or they are no
digits. -/
def unitFault (text : List Symbol) : Fault :=
  if Symbol.byteCountAll (text.take 4) < 4 then .ended else .malformed

/-- Reads the pieces of a string up to the closing quote; `done` holds those before, the latest
first. -/
def readPieces (done : List Piece) : List Symbol → WrittenText × List Symbol
  | [] => (⟨done.reverse, some .ended⟩, [])
  | .char '"' :: rest => (⟨done.reverse, none⟩, rest)
  | .char '\\' :: .char 'u' :: first :: second :: third :: fourth :: rest =>
      match hexUnit? first second third fourth with
      | some value => readPieces (.unit value :: done) rest
      | none => (⟨done.reverse, some (unitFault [first, second, third, fourth])⟩, rest)
  | .char '\\' :: .char 'u' :: rest => (⟨done.reverse, some (unitFault rest)⟩, rest)
  | .char '\\' :: .char c :: rest =>
      match shortEscape? c with
      | some c => readPieces (.char c :: done) rest
      | none => (⟨done.reverse, some .malformed⟩, rest)
  | .char '\\' :: [] => (⟨done.reverse, some .ended⟩, [])
  | .char '\\' :: .stray :: rest => (⟨done.reverse, some .malformed⟩, rest)
  | .stray :: rest => readPieces (.stray :: done) rest
  | .char c :: rest =>
      if c < ' ' then (⟨done.reverse, some .malformed⟩, rest)
      else readPieces (.char c :: done) rest

/-! ## Numbers -/

def decimalDigit? : Symbol → Option Nat
  | .stray => none
  | .char c => if '0' ≤ c && c ≤ '9' then some (c.toNat - 48) else none

/-- Reads decimal digits: the number that they add to `value`, and how many there are. -/
def readDigits (value count : Nat) : List Symbol → (Nat × Nat) × List Symbol
  | [] => ((value, count), [])
  | symbol :: rest =>
      match decimalDigit? symbol with
      | some digit => readDigits (10 * value + digit) (count + 1) rest
      | none => ((value, count), symbol :: rest)

/-- The fault of a number that goes on with something else than a digit. -/
def numberFault (text : List Symbol) : Fault := if text.isEmpty then .ended else .malformed

def readExponentDigits (number : WrittenNumber) (sign : Int) (text : List Symbol) :
    Value × List Symbol :=
  match readDigits 0 0 text with
  | ((_, 0), rest) => (.brokenNumber (numberFault rest), rest)
  | ((exponent, _ + 1), rest) =>
      (.number { number with exponent := number.exponent + sign * exponent, integral := false },
        rest)

def readExponent (number : WrittenNumber) (text : List Symbol) : Value × List Symbol :=
  match text with
  | .char 'e' :: .char '+' :: rest | .char 'E' :: .char '+' :: rest =>
      readExponentDigits number 1 rest
  | .char 'e' :: .char '-' :: rest | .char 'E' :: .char '-' :: rest =>
      readExponentDigits number (-1) rest
  | .char 'e' :: rest | .char 'E' :: rest => readExponentDigits number 1 rest
  | _ => (.number number, text)

def readFraction (number : WrittenNumber) : List Symbol → Value × List Symbol
  | .char '.' :: text =>
      match readDigits number.digits 0 text with
      | ((_, 0), rest) => (.brokenNumber (numberFault rest), rest)
      | ((digits, count + 1), rest) =>
          readExponent { number with
            digits := digits
            exponent := -((count : Int) + 1)
            integral := false } rest
  | text => readExponent number text

/-- Reads a number after its sign. A zero in front of another digit is not allowed. -/
def readNumber (negative : Bool) (text : List Symbol) : Value × List Symbol :=
  match text with
  | .char '0' :: rest =>
      if (rest.head?.bind decimalDigit?).isSome then (.brokenNumber .malformed, rest)
      else readFraction ⟨negative, 0, 0, true⟩ rest
  | _ =>
      match readDigits 0 0 text with
      | ((_, 0), rest) => (.brokenNumber (numberFault rest), rest)
      | ((digits, _ + 1), rest) => readFraction ⟨negative, digits, 0, true⟩ rest

/-! ## Tokens -/

def readToken (first : Symbol) (rest : List Symbol) : Token × List Symbol :=
  let scalar (read : Value × List Symbol) : Token × List Symbol := (.scalar read.1, read.2)
  match first with
  | .char '[' => (.openBracket, rest)
  | .char ']' => (.closeBracket, rest)
  | .char '\x7b' => (.openBrace, rest)
  | .char '\x7d' => (.closeBrace, rest)
  | .char ',' => (.comma, rest)
  | .char ':' => (.colon, rest)
  | .char '"' =>
      let (text, rest) := readPieces [] rest
      (.scalar (.text text), rest)
  | .char 'n' => scalar (readWord .null ['u', 'l', 'l'] rest)
  | .char 't' => scalar (readWord .true ['r', 'u', 'e'] rest)
  | .char 'f' => scalar (readWord .false ['a', 'l', 's', 'e'] rest)
  | .char '-' => scalar (readNumber true rest)
  | symbol =>
      if (decimalDigit? symbol).isSome then scalar (readNumber false (symbol :: rest))
      else (.foreign, rest)

/-- The next token and what follows it, or nothing at the end of the text. -/
def nextToken? (text : List Symbol) : Option (Token × List Symbol) :=
  match skipSpace text with
  | [] => none
  | first :: rest => some (readToken first rest)

/-! ## Reading a token shortens the text -/

theorem length_skipSpace_le (text : List Symbol) : (skipSpace text).length ≤ text.length := by
  fun_induction skipSpace text with
  | case1 c rest _ ih => exact Nat.le_succ_of_le ih
  | case2 => exact Nat.le_refl _
  | case3 => exact Nat.le_refl _

theorem length_readWord_le (word : Word) (expected : List Char) (text : List Symbol) :
    (readWord word expected text).2.length ≤ text.length := by
  fun_induction readWord word expected text with
  | case1 => exact Nat.le_refl _
  | case2 => exact Nat.le_refl _
  | case3 _ _ _ ih => exact Nat.le_succ_of_le ih
  | case4 => exact Nat.le_succ _

theorem length_readPieces_le (done : List Piece) (text : List Symbol) :
    (readPieces done text).2.length ≤ text.length := by
  fun_induction readPieces done text
  all_goals simp only [List.length_cons, List.length_nil] at *
  all_goals omega

theorem length_readDigits_le (value count : Nat) (text : List Symbol) :
    (readDigits value count text).2.length ≤ text.length := by
  fun_induction readDigits value count text with
  | case1 => exact Nat.le_refl _
  | case2 _ _ _ _ _ _ ih => exact Nat.le_succ_of_le ih
  | case3 => exact Nat.le_refl _

theorem length_readDigits_lt {text rest : List Symbol} {value digits count : Nat}
    (h : readDigits value 0 text = ((digits, count + 1), rest)) : rest.length < text.length := by
  cases text with
  | nil => simp [readDigits] at h
  | cons symbol tail =>
      rw [readDigits] at h
      split at h
      · rename_i digit _
        have := length_readDigits_le (10 * value + digit) (0 + 1) tail
        rw [h] at this
        exact Nat.lt_succ_of_le this
      · simp at h

theorem length_readExponentDigits_le (number : WrittenNumber) (sign : Int) (text : List Symbol) :
    (readExponentDigits number sign text).2.length ≤ text.length := by
  have digits := length_readDigits_le 0 0 text
  unfold readExponentDigits
  split <;> (rename_i read; rw [read] at digits; exact digits)

theorem length_readExponent_le (number : WrittenNumber) (text : List Symbol) :
    (readExponent number text).2.length ≤ text.length := by
  have digits := length_readExponentDigits_le number
  unfold readExponent
  split
  all_goals first
    | exact Nat.le_refl _
    | exact Nat.le_succ_of_le (digits _ _)
    | exact Nat.le_succ_of_le (Nat.le_succ_of_le (digits _ _))

theorem length_readFraction_le (number : WrittenNumber) (text : List Symbol) :
    (readFraction number text).2.length ≤ text.length := by
  unfold readFraction
  split
  · rename_i tail
    have digits := length_readDigits_le number.digits 0 tail
    split
    · rename_i read
      rw [read] at digits
      simp only [List.length_cons] at *
      omega
    · rename_i read
      rw [read] at digits
      have := length_readExponent_le
      simp only [List.length_cons] at *
      exact Nat.le_trans (this _ _) (by omega)
  · exact length_readExponent_le _ _

theorem length_readNumber_le (negative : Bool) (text : List Symbol) :
    (readNumber negative text).2.length ≤ text.length := by
  unfold readNumber
  split
  · split
    · exact Nat.le_succ _
    · exact Nat.le_succ_of_le (length_readFraction_le _ _)
  · have digits := length_readDigits_le 0 0 text
    split
    · rename_i read
      rw [read] at digits
      exact digits
    · rename_i read
      rw [read] at digits
      exact Nat.le_trans (length_readFraction_le _ _) digits

theorem length_readNumber_lt {symbol : Symbol} {rest : List Symbol}
    (digit : (decimalDigit? symbol).isSome = true) :
    (readNumber false (symbol :: rest)).2.length ≤ rest.length := by
  unfold readNumber
  split
  · rename_i tail same
    cases same
    split
    · exact Nat.le_refl _
    · exact length_readFraction_le _ _
  · obtain ⟨value, isDigit⟩ := Option.isSome_iff_exists.1 digit
    split
    · rename_i read
      rw [readDigits, isDigit] at read
      dsimp only at read
      have := length_readDigits_le (10 * 0 + value) (0 + 1) rest
      rw [read] at this
      exact this
    · rename_i read
      have := length_readDigits_lt read
      exact Nat.le_trans (length_readFraction_le _ _) (Nat.le_of_lt_succ this)

/-- A token takes at least its first symbol. -/
theorem length_readToken_le (first : Symbol) (rest : List Symbol) :
    (readToken first rest).2.length ≤ rest.length := by
  unfold readToken
  dsimp only
  split
  all_goals try exact Nat.le_refl _
  · exact length_readPieces_le [] rest
  · exact length_readWord_le _ _ rest
  · exact length_readWord_le _ _ rest
  · exact length_readWord_le _ _ rest
  · exact length_readNumber_le _ rest
  · split
    · rename_i digit
      exact length_readNumber_lt digit
    · exact Nat.le_refl _

/-- Reading a token consumes at least one symbol. -/
theorem length_of_nextToken? {text rest : List Symbol} {token : Token}
    (h : nextToken? text = some (token, rest)) : rest.length < text.length := by
  unfold nextToken? at h
  have spaces := length_skipSpace_le text
  split at h
  · cases h
  · rename_i first tail skipped
    rw [skipped] at spaces
    have := length_readToken_le first tail
    rw [Option.some.inj h] at this
    simp only [List.length_cons] at spaces this
    omega

end ContentBlocking.Json
