import Mathlib.Logic.Function.Basic
import ContentBlocking.Filter

/-!
# Escaping, character by character

A text is escaped in three passes, each over what the one before has written. They do not touch what
another one has put in, so every character is escaped by itself, whatever stands around it. What has
been escaped can be read back, and therefore different domains have different filters.
-/

namespace ContentBlocking.Filter

theorem escapeChars_cons (c : Char) (text : List Char) :
    escapeChars (c :: text) =
      (if c = '\\' ∨ c = '.' ∨ c = '/' then ['\\', c] else [c]) ++ escapeChars text := by
  by_cases backslash : c = '\\'
  · subst backslash
    simp [escapeChars, protect]
  · by_cases dot : c = '.'
    · subst dot
      simp [escapeChars, protect]
    · by_cases slash : c = '/'
      · subst slash
        simp [escapeChars, protect]
      · simp [escapeChars, protect, backslash, dot, slash]

def escapedChar : Char → List Char
  | '\\' => ['\\', '\\']
  | '.' => ['\\', '.']
  | '/' => ['\\', '/']
  | c => [c]

theorem escapedChar_eq (c : Char) :
    escapedChar c = if c = '\\' ∨ c = '.' ∨ c = '/' then ['\\', c] else [c] := by
  unfold escapedChar
  split
  · rfl
  · rfl
  · rfl
  · rename_i backslash dot slash
    rw [if_neg (by simpa using ⟨backslash, dot, slash⟩)]

/-- The three passes of escaping do the same as one pass over the characters. -/
theorem escapeChars_eq_flatMap (text : List Char) :
    escapeChars text = text.flatMap escapedChar := by
  induction text with
  | nil => rfl
  | cons c text inductionHypothesis =>
      rw [escapeChars_cons, List.flatMap_cons, escapedChar_eq, inductionHypothesis]

theorem escapeChars_append (left right : List Char) :
    escapeChars (left ++ right) = escapeChars left ++ escapeChars right := by
  rw [escapeChars_eq_flatMap, escapeChars_eq_flatMap, escapeChars_eq_flatMap, List.flatMap_append]

/-! ## Reading back -/

/-- A text without the backslash in front of each escaped character. -/
def unescapeChars : List Char → List Char
  | '\\' :: c :: rest => c :: unescapeChars rest
  | c :: rest => c :: unescapeChars rest
  | [] => []

theorem unescapeChars_cons {c : Char} (ordinary : c ≠ '\\') (rest : List Char) :
    unescapeChars (c :: rest) = c :: unescapeChars rest := by
  rw [unescapeChars]
  intro other behind backslash
  exact absurd backslash ordinary

/-- The backslashes of an escaped text can be taken out again. -/
theorem unescapeChars_escapeChars (text : List Char) : unescapeChars (escapeChars text) = text := by
  induction text with
  | nil => rfl
  | cons c text inductionHypothesis =>
      rw [escapeChars_cons]
      by_cases special : c = '\\' ∨ c = '.' ∨ c = '/'
      · rw [if_pos special]
        exact congrArg (c :: ·) inductionHypothesis
      · have ordinary : c ≠ '\\' := fun backslash => special (Or.inl backslash)
        rw [if_neg special, List.singleton_append, unescapeChars_cons ordinary, inductionHypothesis]

/-! ## Texts -/

theorem escape_append (left right : String) : escape (left ++ right) = escape left ++ escape right := by
  rw [escape, String.toList_append, escapeChars_append, String.ofList_append, escape, escape]

theorem escape_injective : Function.Injective escape := by
  intro left right same
  have sameChars : escapeChars left.toList = escapeChars right.toList := String.ofList_injective same
  have readBack := congrArg unescapeChars sameChars
  rw [unescapeChars_escapeChars, unescapeChars_escapeChars] at readBack
  exact String.toList_inj.mp readBack

/-- Different domains have different filters. -/
theorem ofDomain_injective : Function.Injective ofDomain := by
  intro left right same
  have characters := congrArg String.toList same
  simp only [ofDomain, String.toList_append] at characters
  have escaped := List.append_cancel_left (List.append_cancel_right characters)
  exact escape_injective (String.toList_inj.mp escaped)

/-- Each character of a text is escaped by itself. So two texts in a row are escaped one after the
other, and neither different texts nor the filters for different domains become the same. -/
theorem escape_by_characters :
    (∀ text, escape text = String.ofList (text.toList.flatMap escapedChar)) ∧
      (∀ left right, escape (left ++ right) = escape left ++ escape right) ∧
      Function.Injective escape ∧ Function.Injective ofDomain := by
  refine ⟨?_, escape_append, escape_injective, ofDomain_injective⟩
  intro text
  rw [escape, escapeChars_eq_flatMap]

end ContentBlocking.Filter
