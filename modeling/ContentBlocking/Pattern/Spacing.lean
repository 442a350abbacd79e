import ContentBlocking.Text.CharSet

/-!
# Blanks and comments in written patterns

A pattern may be written with blanks between its parts and with comments from a number sign to the
end of the line. The readers of patterns take a switch that says whether this one is.
-/

namespace ContentBlocking.Pattern

open ContentBlocking.Text

def skipComment : List Char → List Char
  | [] => []
  | c :: text => if c = '\n' then text else skipComment text

theorem length_skipComment_le (text : List Char) : (skipComment text).length ≤ text.length := by
  induction text with
  | nil => exact Nat.le_refl _
  | cons c text ih =>
      rw [skipComment]
      split
      · exact Nat.le_succ _
      · exact Nat.le_succ_of_le ih

theorem length_dropWhile_le (p : Char → Bool) (text : List Char) :
    (text.dropWhile p).length ≤ text.length :=
  (List.dropWhile_sublist p).length_le

def skipBlanks (text : List Char) : List Char :=
  match _next : text.dropWhile isBlank with
  | '#' :: rest => skipBlanks (skipComment rest)
  | rest => rest
termination_by text.length
decreasing_by
  have shorter := length_dropWhile_le isBlank text
  have := length_skipComment_le rest
  simp only [_next, List.length_cons] at shorter
  omega

theorem length_skipBlanks_le (text : List Char) : (skipBlanks text).length ≤ text.length := by
  fun_induction skipBlanks text with
  | case1 text rest next ih =>
      have shorter := length_dropWhile_le isBlank text
      have := length_skipComment_le rest
      rw [next, List.length_cons] at shorter
      omega
  | case2 text => exact length_dropWhile_le isBlank text

def skipSpace (spaced : Bool) (text : List Char) : List Char :=
  if spaced then skipBlanks text else text

theorem length_skipSpace_le (spaced : Bool) (text : List Char) :
    (skipSpace spaced text).length ≤ text.length := by
  unfold skipSpace
  split
  · exact length_skipBlanks_le text
  · exact Nat.le_refl _

/-- Takes characters as long as they satisfy a condition, and drops the space after each. -/
def takeSpaced (spaced : Bool) (p : Char → Bool) : List Char → List Char × List Char
  | [] => ([], [])
  | c :: text =>
      if p c then
        let (taken, rest) := takeSpaced spaced p (skipSpace spaced text)
        (c :: taken, rest)
      else ([], c :: text)
termination_by text => text.length
decreasing_by exact Nat.lt_succ_of_le (length_skipSpace_le spaced text)

theorem length_takeSpaced_le (spaced : Bool) (p : Char → Bool) (text : List Char) :
    (takeSpaced spaced p text).2.length ≤ text.length := by
  fun_induction takeSpaced spaced p text with
  | case1 => exact Nat.le_refl _
  | case2 c text _ taken rest read ih =>
      have := length_skipSpace_le spaced text
      rw [read] at ih
      simp only [List.length_cons] at ih ⊢
      omega
  | case3 => exact Nat.le_refl _

/-- The character that is taken to come next after blanks. Of a comment it is the first character
that shows; if nothing more shows, it is the next character, shown or not. -/
def peekSpace (spaced : Bool) (text : List Char) : Option Char :=
  if spaced then
    let shown :=
      match text.dropWhile isBlank with
      | '#' :: comment => comment.dropWhile isBlank
      | rest => rest
    shown.head?.or text.head?
  else text.head?

end ContentBlocking.Pattern
