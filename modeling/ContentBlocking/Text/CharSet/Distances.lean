import ContentBlocking.Text.CharSet

/-!
# Written sets of characters

A long set is written down by the distances between its bounds, in hexadecimal digits with white
space between two of them.
-/

namespace ContentBlocking.Text

def isHexDigit (c : Char) : Bool :=
  ('0' ≤ c && c ≤ '9') || ('a' ≤ c && c ≤ 'f') || ('A' ≤ c && c ≤ 'F')

def hexDigitValue (c : Char) : Nat :=
  if c ≤ '9' then c.toNat - 48 else if c ≤ 'F' then c.toNat - 55 else c.toNat - 87

def hexValue (digits : List Char) : Nat :=
  digits.foldl (fun value digit => 16 * value + hexDigitValue digit) 0

namespace CharSet

/-- The numbers that are written in a text, in hexadecimal digits with white space between them. A
number of which digits have been read goes on with the text. -/
def readNumbers : Option Nat → List Char → List Nat
  | number, [] => number.toList
  | number, c :: text =>
      if c = ' ' || c = '\n' then number.toList ++ readNumbers Option.none text
      else readNumbers (some (16 * number.getD 0 + hexDigitValue c)) text

/-- The bounds at the given distances, each from the one before, of which the first counts from
`position`. -/
def boundsFrom (position : Nat) : List Nat → List Nat
  | [] => []
  | distance :: rest => (position + distance) :: boundsFrom (position + distance) rest

def areAscending : List Nat → Bool
  | first :: second :: rest => first < second && areAscending (second :: rest)
  | _ => true

theorem pairwise_of_areAscending {bounds : List Nat} (h : areAscending bounds = true) :
    bounds.Pairwise (· < ·) := by
  fun_induction areAscending bounds with
  | case1 first second rest ih =>
      rw [Bool.and_eq_true, decide_eq_true_eq] at h
      have tail := ih h.2
      refine List.pairwise_cons.2 ⟨fun other member => ?_, tail⟩
      rcases List.mem_cons.1 member with rfl | member
      · exact h.1
      · exact Nat.lt_trans h.1 ((List.pairwise_cons.1 tail).1 other member)
  | case2 bounds short =>
      match bounds with
      | [] => exact .nil
      | [_] => simp
      | first :: second :: rest => exact absurd rfl (short first second rest)

/-- The set whose bounds are written in a text by their distances. -/
def ofDistances (text : String) : CharSet :=
  let bounds := boundsFrom 0 (readNumbers Option.none text.toList)
  if h : areAscending bounds = true then ⟨bounds, pairwise_of_areAscending h⟩ else none

end CharSet

end ContentBlocking.Text
