import ContentBlocking.Json.Reader

/-!
# The grammar of JSON texts

Which texts spell which values, said without the reader: a text is put together from the texts of
the parts of its value, with white space where the grammar allows it. Where a part ends is left open
here; the reader has to find out.
-/

namespace ContentBlocking.Json

def IsBlank (text : List Symbol) : Prop := ∀ symbol ∈ text, ∃ c, symbol = .char c ∧ isSpace c = true

/-! ## Strings -/

inductive SpellsPiece : List Symbol → Piece → Prop
  | plain {c : Char} (ordinary : c ∉ ['"', '\\']) (visible : ¬ c < ' ') :
      SpellsPiece [.char c] (.char c)
  | escaped {letter c : Char} (short : shortEscape? letter = some c) :
      SpellsPiece [.char '\\', .char letter] (.char c)
  | unit {first second third fourth : Symbol} {value : Nat}
      (digits : hexUnit? first second third fourth = some value) :
      SpellsPiece [.char '\\', .char 'u', first, second, third, fourth] (.unit value)
  | stray : SpellsPiece [.stray] .stray

inductive SpellsPieces : List Symbol → List Piece → Prop
  | nil : SpellsPieces [] []
  | cons {text rest : List Symbol} {piece : Piece} {pieces : List Piece} :
      SpellsPiece text piece → SpellsPieces rest pieces →
        SpellsPieces (text ++ rest) (piece :: pieces)

inductive SpellsText : List Symbol → WrittenText → Prop
  | quoted {body : List Symbol} {pieces : List Piece} :
      SpellsPieces body pieces → SpellsText (.char '"' :: (body ++ [.char '"'])) ⟨pieces, none⟩

/-! ## Numbers -/

/-- The number that digits write after what has been written before. -/
def digitsAfter (before : Nat) (digits : List Nat) : Nat :=
  digits.foldl (fun value digit => 10 * value + digit) before

def SpellsDigits (text : List Symbol) (digits : List Nat) : Prop :=
  text.map decimalDigit? = digits.map some

inductive SpellsFraction : List Symbol → List Nat → Prop
  | absent : SpellsFraction [] []
  | present {text : List Symbol} {digits : List Nat} (nonempty : digits ≠ []) :
      SpellsDigits text digits → SpellsFraction (.char '.' :: text) digits

inductive SpellsSign : List Symbol → Int → Prop
  | absent : SpellsSign [] 1
  | plus : SpellsSign [.char '+'] 1
  | minus : SpellsSign [.char '-'] (-1)

inductive SpellsExponent : List Symbol → Option Int → Prop
  | absent : SpellsExponent [] none
  | present {letter : Char} {sign text : List Symbol} {factor : Int} {digits : List Nat}
      (marked : letter ∈ ['e', 'E']) (nonempty : digits ≠ []) :
      SpellsSign sign factor → SpellsDigits text digits →
        SpellsExponent (.char letter :: (sign ++ text))
          (some (factor * (digitsAfter 0 digits : Nat)))

/-- The spellings of a number. A zero stands in front of no other digit of the whole part. -/
inductive SpellsNumber : List Symbol → WrittenNumber → Prop
  | parts (negative : Bool) {whole fraction exponent : List Symbol} {digits decimals : List Nat}
      {scale : Option Int} (nonempty : digits ≠ [])
      (noLeadingZero : digits.head? = some 0 → digits = [0]) :
      SpellsDigits whole digits → SpellsFraction fraction decimals →
        SpellsExponent exponent scale →
          SpellsNumber
            ((if negative then [.char '-'] else []) ++ (whole ++ (fraction ++ exponent)))
            { negative
              digits := digitsAfter 0 (digits ++ decimals)
              exponent := scale.getD 0 - decimals.length
              integral := decimals.isEmpty && scale.isNone }

/-! ## Values -/

def Word.letters : Word → List Char
  | .null => ['n', 'u', 'l', 'l']
  | .true => ['t', 'r', 'u', 'e']
  | .false => ['f', 'a', 'l', 's', 'e']

/-- What a part of a text may stand for. -/
inductive Phrase where
  | value (value : Value)
  /-- A value with white space around it. -/
  | spaced (value : Value)
  /-- The items of a list that is not empty. -/
  | items (items : List Value)
  | member (member : Member)
  /-- The members of an object that is not empty. -/
  | members (members : List Member)

inductive Spells : List Symbol → Phrase → Prop
  | word (word : Word) : Spells (word.letters.map .char) (.value (.word word))
  | number {text : List Symbol} {number : WrittenNumber} :
      SpellsNumber text number → Spells text (.value (.number number))
  | text {text : List Symbol} {written : WrittenText} :
      SpellsText text written → Spells text (.value (.text written))
  | emptyArray {blank : List Symbol} :
      IsBlank blank → Spells (.char '[' :: (blank ++ [.char ']'])) (.value (.array [] .closed))
  | array {text : List Symbol} {items : List Value} :
      Spells text (.items items) →
        Spells (.char '[' :: (text ++ [.char ']'])) (.value (.array items .closed))
  | emptyObject {blank : List Symbol} :
      IsBlank blank →
        Spells (.char '\x7b' :: (blank ++ [.char '\x7d'])) (.value (.object [] .closed))
  | object {text : List Symbol} {members : List Member} :
      Spells text (.members members) →
        Spells (.char '\x7b' :: (text ++ [.char '\x7d'])) (.value (.object members .closed))
  | spaced {before text after : List Symbol} {value : Value} :
      IsBlank before → Spells text (.value value) → IsBlank after →
        Spells (before ++ (text ++ after)) (.spaced value)
  | lastItem {text : List Symbol} {value : Value} :
      Spells text (.spaced value) → Spells text (.items [value])
  | item {text rest : List Symbol} {value : Value} {items : List Value} :
      Spells text (.spaced value) → Spells rest (.items items) →
        Spells (text ++ .char ',' :: rest) (.items (value :: items))
  | member {before name between text : List Symbol} {key : WrittenText} {value : Value} :
      IsBlank before → SpellsText name key → IsBlank between → Spells text (.spaced value) →
        Spells (before ++ (name ++ (between ++ .char ':' :: text))) (.member (key, value))
  | lastMember {text : List Symbol} {member : Member} :
      Spells text (.member member) → Spells text (.members [member])
  | moreMembers {text rest : List Symbol} {member : Member} {members : List Member} :
      Spells text (.member member) → Spells rest (.members members) →
        Spells (text ++ .char ',' :: rest) (.members (member :: members))

/-- The rest of a list after one of its items. -/
inductive SpellsFurtherItems : List Symbol → List Value → Prop
  | none {blank : List Symbol} : IsBlank blank → SpellsFurtherItems blank []
  | more {blank text : List Symbol} {items : List Value} :
      IsBlank blank → Spells text (.items items) →
        SpellsFurtherItems (blank ++ .char ',' :: text) items

/-- The rest of an object after one of its members. -/
inductive SpellsFurtherMembers : List Symbol → List Member → Prop
  | none {blank : List Symbol} : IsBlank blank → SpellsFurtherMembers blank []
  | more {blank text : List Symbol} {members : List Member} :
      IsBlank blank → Spells text (.members members) →
        SpellsFurtherMembers (blank ++ .char ',' :: text) members

theorem SpellsFurtherItems.spells {before text further : List Symbol} {value : Value}
    {items : List Value} (others : SpellsFurtherItems further items) (blank : IsBlank before)
    (spelled : Spells text (.value value)) :
    Spells (before ++ (text ++ further)) (.items (value :: items)) := by
  cases others with
  | none after => exact .lastItem (.spaced blank spelled after)
  | more after items =>
      have whole := Spells.item (.spaced blank spelled after) items
      simpa using whole

theorem SpellsFurtherMembers.spells {before name between space text further : List Symbol}
    {key : WrittenText} {value : Value} {members : List Member}
    (others : SpellsFurtherMembers further members) (beforeBlank : IsBlank before)
    (named : SpellsText name key) (betweenBlank : IsBlank between) (spaceBlank : IsBlank space)
    (spelled : Spells text (.value value)) :
    Spells (before ++ (name ++ (between ++ .char ':' :: (space ++ (text ++ further)))))
      (.members ((key, value) :: members)) := by
  cases others with
  | none after =>
      exact .lastMember (.member beforeBlank named betweenBlank (.spaced spaceBlank spelled after))
  | more after members =>
      have whole := Spells.moreMembers
        (.member beforeBlank named betweenBlank (.spaced spaceBlank spelled after)) members
      simpa using whole

end ContentBlocking.Json
