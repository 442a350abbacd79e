/-!
# Binary floating-point numbers

The finite numbers of the 64-bit binary format, all in exact arithmetic: a decimal is rounded to the
nearest of them, a tie goes to the one with an even significand, and a number is written with the
fewest digits that round back to it, the nearest ones if there is a choice.
-/

namespace ContentBlocking

/-- The natural number nearest to a quotient; a tie goes to the even one. -/
def nearestQuotient (numerator denominator : Nat) : Nat :=
  let quotient := numerator / denominator
  let rest := numerator % denominator
  if 2 * rest < denominator then quotient
  else if denominator < 2 * rest then quotient + 1
  else quotient + quotient % 2

/-- The number of magnitudes from a power of two up to the next one. -/
def Binary64.binade : Nat := 0x10000000000000

def Binary64.infinityCode : Nat := 2047 * binade

/-- A finite number of the 64-bit binary format. The code counts the magnitudes from zero upwards,
so it is the format's bit pattern without the sign. -/
structure Binary64 where
  negative : Bool
  code : Nat
  finite : code < Binary64.infinityCode := by decide
deriving DecidableEq, Repr

namespace Binary64

def signBit : Nat := 0x8000000000000000

def bits (number : Binary64) : UInt64 :=
  UInt64.ofNat ((if number.negative then signBit else 0) + number.code)

/-- Equality of values: the two zeros are equal. -/
def sameValue (left right : Binary64) : Bool :=
  left.code = right.code && (left.negative = right.negative || left.code = 0)

/-! ## Rounding -/

/-- A power of a base, or one if the exponent is negative. A factor with a negative exponent is
taken to the other side of a quotient or a comparison. -/
def scale (base : Nat) (exponent : Int) : Nat := Nat.pow base exponent.toNat

def shiftQuotient (numerator denominator : Nat) (power : Int) : Nat × Nat :=
  (numerator * scale 2 power, denominator * scale 2 (-power))

/-- The largest power of two that a positive quotient reaches. -/
def quotientLog2 (numerator denominator : Nat) : Int :=
  let guess : Int := (numerator.log2 : Int) - denominator.log2
  let (shifted, reference) := shiftQuotient numerator denominator (-guess)
  if reference ≤ shifted then guess else guess - 1

/-- The code of the magnitude nearest to a positive quotient. It may be as large as the code of
infinity, or larger. -/
def codeOfQuotient (numerator denominator : Nat) : Nat :=
  let power := max (quotientLog2 numerator denominator - 52) (-1074)
  let (shifted, reference) := shiftQuotient numerator denominator (-power)
  (power + 1074).toNat * binade + nearestQuotient shifted reference

/-- The code of the magnitude nearest to a decimal. Exponents far out of range are decided without
computing the power of ten. -/
def codeOfDecimal (digits : Nat) (exponent : Int) : Nat :=
  if digits = 0 then 0
  else if 400 < exponent then infinityCode
  else if exponent + (digits.log2 : Int) / 3 + 1 < -400 then 0
  else codeOfQuotient (digits * scale 10 exponent) (scale 10 (-exponent))

def ofDecimal? (negative : Bool) (digits : Nat) (exponent : Int) : Option Binary64 :=
  if h : codeOfDecimal digits exponent < infinityCode then
    some ⟨negative, codeOfDecimal digits exponent, h⟩
  else none

/-! ## Shortest decimals -/

def decode (code : Nat) : Nat × Int :=
  if code < binade then (code, -1074)
  else (binade + code % binade, ((code / binade : Nat) : Int) - 1075)

/-- The reals that round to a magnitude, as a lower and an upper end in units of a power of two. The
ends belong to them if the significand is even. -/
structure Interval where
  lower : Nat
  upper : Nat
  middle : Nat
  power : Int
  closed : Bool

/-- The reals that round to the magnitude with a code. Below a power of two the spacing halves. -/
def intervalOf (code : Nat) : Interval :=
  let (significand, power) := decode code
  let below := if significand = binade && -1074 < power then 1 else 2
  ⟨4 * significand - below, 4 * significand + 2, 4 * significand, power - 2, significand % 2 = 0⟩

def compareDecimal (left : Nat) (power : Int) (right : Nat) (exponent : Int) : Ordering :=
  compare (left * scale 2 power * scale 10 (-exponent))
    (right * scale 10 exponent * scale 2 (-power))

/-- Whether `digits * 10 ^ exponent` rounds to the magnitude with the interval. -/
def Interval.contains (interval : Interval) (digits : Nat) (exponent : Int) : Bool :=
  let low := compareDecimal interval.lower interval.power digits exponent
  let high := compareDecimal interval.upper interval.power digits exponent
  (low = .lt || (interval.closed && low = .eq)) && (high = .gt || (interval.closed && high = .eq))

/-- The largest number of units `10 ^ exponent` that a magnitude reaches. -/
def unitsBelow (interval : Interval) (exponent : Int) : Nat :=
  (interval.middle * scale 2 interval.power * scale 10 (-exponent)) /
    (scale 10 exponent * scale 2 (-interval.power))

/-- The multiple of `10 ^ exponent` nearest to the magnitude, if it rounds to it; of two equally
near ones the even one. -/
def decimalAt? (interval : Interval) (exponent : Int) : Option (Nat × Int) :=
  let below := unitsBelow interval exponent
  let lower := interval.contains below exponent && below ≠ 0
  let upper := interval.contains (below + 1) exponent
  match lower, upper with
  | true, false => some (below, exponent)
  | false, true => some (below + 1, exponent)
  | false, false => none
  | true, true =>
      match compareDecimal (2 * interval.middle) interval.power (2 * below + 1) exponent with
      | .lt => some (below, exponent)
      | .gt => some (below + 1, exponent)
      | .eq => some (below + below % 2, exponent)

/-- The shortest decimal that rounds to the positive magnitude with a code. The search goes from
coarse to fine grids, and the first grid with an answer needs the fewest digits. -/
def shortest (code : Nat) : Nat × Int :=
  ((List.range 640).findSome? fun (step : Nat) =>
    decimalAt? (intervalOf code) (310 - (step : Int))).getD (0, 0)

/-! ## Writing -/

/-- Decimal digits with a point before position `point`, which lies inside or at the end. -/
def withPoint (digits : List Char) (point : Nat) : List Char :=
  let fraction := digits.drop point
  digits.take point ++ '.' :: (if fraction.isEmpty then ['0'] else fraction)

def exponentText (exponent : Int) : List Char :=
  'e' :: (if exponent < 0 then [] else ['+']) ++ (toString exponent).toList

/-- The text of a positive decimal. Exponents are written out for magnitudes from `1e-5` on and
below `1e16`. -/
def decimalText (digits : List Char) (exponent : Int) : List Char :=
  let point : Int := digits.length + exponent
  if 0 ≤ exponent && point ≤ 16 then
    withPoint (digits ++ List.replicate exponent.toNat '0') point.toNat
  else if 0 < point && point ≤ 16 then withPoint digits point.toNat
  else if -5 < point && point ≤ 0 then
    '0' :: '.' :: (List.replicate (-point).toNat '0' ++ digits)
  else
    (match digits with
      | [_] => digits
      | _ => withPoint digits 1) ++ exponentText (point - 1)

/-- The shortest text that reads back as the number; there is always a point or an exponent. -/
def text (number : Binary64) : String :=
  let magnitude :=
    if number.code = 0 then ['0', '.', '0']
    else
      let (digits, exponent) := shortest number.code
      decimalText (Nat.toDigits 10 digits) exponent
  String.ofList (if number.negative then '-' :: magnitude else magnitude)

end Binary64

end ContentBlocking
