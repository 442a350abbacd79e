import Mathlib.Computability.Language
import ContentBlocking.Pattern.Occurrence
import ContentBlocking.Pattern.Written
import ContentBlocking.Proofs.Pattern.Reading
import ContentBlocking.Proofs.Text.Variants

/-!
# The languages of patterns

A pattern without conditions on places describes the texts of a language, whatever stands in front
of them and behind them. Its language is put together from the languages of its parts: one after the
other is a product, a repetition is a star. A pattern that is bound to the start of a text occurs in
the texts that begin with a text of its language.
-/

namespace ContentBlocking

open Text
open scoped Computability

/-! ## Languages of texts -/

namespace Text

/-- The texts of a single character that has the property. -/
def oneOf (property : Char → Prop) : Language Char :=
  {text | ∃ c, text = [c] ∧ property c}

/-- The given text, where case does not matter. -/
def anyCase (text : List Char) : Language Char := {other | SameText other text}

variable {property : Char → Prop} {text : List Char}

theorem mem_oneOf_iff : text ∈ oneOf property ↔ ∃ c, text = [c] ∧ property c := Iff.rfl

theorem mem_anyCase_iff {other : List Char} : other ∈ anyCase text ↔ SameText other text := Iff.rfl

/-- The texts that consist of single characters with a property are those all of whose characters
have it. -/
theorem mem_kstar_oneOf_iff : text ∈ (oneOf property)∗ ↔ ∀ c ∈ text, property c := by
  rw [Language.mem_kstar]
  constructor
  · rintro ⟨pieces, rfl, single⟩ c member
    obtain ⟨piece, pieceMember, inPiece⟩ := List.mem_flatten.mp member
    obtain ⟨only, rfl, holds⟩ := single piece pieceMember
    rw [List.mem_singleton.mp inPiece]
    exact holds
  · intro holds
    refine ⟨text.map fun c => [c], ?_, ?_⟩
    · induction text with
      | nil => rfl
      | cons c rest inductionHypothesis =>
          have later := inductionHypothesis fun other member =>
            holds other (List.mem_cons_of_mem c member)
          rw [List.map_cons, List.flatten_cons, ← later]
          rfl
    · intro piece member
      obtain ⟨c, inText, rfl⟩ := List.mem_map.mp member
      exact ⟨c, rfl, holds c inText⟩

theorem mem_oneOf_mul_kstar_iff :
    text ∈ oneOf property * (oneOf property)∗ ↔ text ≠ [] ∧ ∀ c ∈ text, property c := by
  rw [Language.mem_mul]
  constructor
  · rintro ⟨first, ⟨c, rfl, holds⟩, rest, restMember, rfl⟩
    rw [mem_kstar_oneOf_iff] at restMember
    refine ⟨List.cons_ne_nil c rest, ?_⟩
    intro other member
    rcases List.mem_cons.mp member with same | later
    · rw [same]
      exact holds
    · exact restMember other later
  · intro ⟨filled, holds⟩
    cases text with
    | nil => exact absurd rfl filled
    | cons c rest =>
        refine ⟨[c], ⟨c, rfl, holds c List.mem_cons_self⟩, rest, ?_, rfl⟩
        rw [mem_kstar_oneOf_iff]
        exact fun other member => holds other (List.mem_cons_of_mem c member)

theorem anyCase_nil : anyCase [] = 1 := by
  ext other
  rw [mem_anyCase_iff, SameText, Language.mem_one]
  exact List.map_eq_nil_iff

theorem anyCase_append (left right : List Char) :
    anyCase (left ++ right) = anyCase left * anyCase right := by
  ext other
  rw [mem_anyCase_iff, sameText_append_iff, Language.mem_mul]
  constructor
  · rintro ⟨first, second, rfl, sameFirst, sameSecond⟩
    exact ⟨first, sameFirst, second, sameSecond, rfl⟩
  · rintro ⟨first, sameFirst, second, sameSecond, rfl⟩
    exact ⟨first, second, rfl, sameFirst, sameSecond⟩

end Text

namespace Pattern

/-- The stretches that a pattern describes are the texts of a language, wherever they stand. -/
def Describes (pattern : Pattern) (language : Language Char) : Prop :=
  ∀ before taken after, pattern.Spans before taken after ↔ taken ∈ language

variable {first second pattern : Pattern} {language other : Language Char}

/-! ## Patterns -/

theorem describes_empty : Describes .empty 1 := by
  intro before taken after
  rw [spans_empty_iff, Language.mem_one]

theorem describes_one (set : CharSet) :
    Describes (.one set) (oneOf fun c => set.mem c = true) := by
  intro before taken after
  rw [spans_one_iff, mem_oneOf_iff]

theorem Describes.optional (describes : pattern.Describes language) :
    (optional pattern).Describes (1 + language) := by
  intro before taken after
  rw [Pattern.optional, spans_either_iff, spans_empty_iff, describes, Language.mem_add,
    Language.mem_one]

theorem Describes.spans_plus {before front after : List Char} {pieces : List (List Char)}
    (describes : pattern.Describes language) (frontMember : front ∈ language)
    (inLanguage : ∀ piece ∈ pieces, piece ∈ language) :
    (Pattern.plus pattern).Spans before (front ++ pieces.flatten) after := by
  induction pieces generalizing before front with
  | nil =>
      rw [List.flatten_nil, List.append_nil]
      exact .once ((describes _ _ _).mpr frontMember)
  | cons piece pieces inductionHypothesis =>
      have pieceMember := inLanguage piece List.mem_cons_self
      have restMembers : ∀ other ∈ pieces, other ∈ language := fun other member =>
        inLanguage other (List.mem_cons_of_mem piece member)
      have later : (Pattern.plus pattern).Spans (before ++ front) (piece ++ pieces.flatten) after :=
        inductionHypothesis pieceMember restMembers
      rw [List.flatten_cons]
      exact .again ((describes _ _ _).mpr frontMember) later

/-- A repetition describes one or more texts of the language in a row. -/
theorem Describes.plus (describes : pattern.Describes language) :
    (Pattern.plus pattern).Describes (language * language∗) := by
  intro before taken after
  constructor
  · intro spans
    -- Induction on how the stretch is described, of which only the repetitions are about this pattern.
    generalize shape : Pattern.plus pattern = repeated at spans
    induction spans with
    | once span _ =>
        cases shape
        rw [describes] at span
        exact Language.mem_mul.mpr ⟨_, span, [], Language.nil_mem_kstar language, List.append_nil _⟩
    | again head _ _ inductionHypothesis =>
        have later := inductionHypothesis shape
        cases shape
        rw [describes] at head
        refine Language.mem_mul.mpr ⟨_, head, _, ?_, rfl⟩
        rw [← Language.one_add_self_mul_kstar_eq_kstar]
        exact Or.inr later
    | _ => cases shape
  · intro member
    obtain ⟨front, frontMember, rest, restMember, rfl⟩ := Language.mem_mul.mp member
    obtain ⟨pieces, rfl, inLanguage⟩ := Language.mem_kstar.mp restMember
    exact describes.spans_plus frontMember inLanguage

theorem Describes.star (describes : pattern.Describes language) :
    (star pattern).Describes language∗ := by
  have either := describes.plus.optional
  rwa [Language.one_add_self_mul_kstar_eq_kstar] at either

theorem spans_sequence_cons_iff {rest : List Pattern} {before taken after : List Char} :
    Spans (sequence (first :: rest)) before taken after ↔
      ∃ left right, taken = left ++ right ∧ Spans first before left (right ++ after) ∧
        Spans (sequence rest) (before ++ left) right after := by
  cases rest with
  | nil =>
      simp only [sequence, spans_empty_iff]
      constructor
      · intro spans
        exact ⟨taken, [], (List.append_nil taken).symm, spans, rfl⟩
      · rintro ⟨left, right, rfl, spans, rfl⟩
        rwa [List.append_nil]
  | cons second rest => exact spans_seq_iff

theorem Describes.cons {rest : List Pattern} (head : first.Describes language)
    (tail : (sequence rest).Describes other) :
    (sequence (first :: rest)).Describes (language * other) := by
  intro before taken after
  simp only [spans_sequence_cons_iff, head _ _ _, tail _ _ _, Language.mem_mul]
  constructor
  · rintro ⟨left, right, rfl, inFirst, inSecond⟩
    exact ⟨left, inFirst, right, inSecond, rfl⟩
  · rintro ⟨left, inFirst, right, inSecond, rfl⟩
    exact ⟨left, right, rfl, inFirst, inSecond⟩

theorem describes_sequence_nil : (sequence []).Describes 1 := describes_empty

theorem Describes.single (describes : pattern.Describes language) :
    (sequence [pattern]).Describes language :=
  describes

theorem spans_sequence_append_iff {patterns others : List Pattern}
    {before taken after : List Char} :
    Spans (sequence (patterns ++ others)) before taken after ↔
      ∃ left right, taken = left ++ right ∧ Spans (sequence patterns) before left (right ++ after) ∧
        Spans (sequence others) (before ++ left) right after := by
  induction patterns generalizing before taken with
  | nil =>
      simp only [List.nil_append, sequence, spans_empty_iff]
      constructor
      · intro spans
        refine ⟨[], taken, rfl, rfl, ?_⟩
        rwa [List.append_nil]
      · rintro ⟨left, right, rfl, rfl, spans⟩
        rwa [List.append_nil] at spans
  | cons pattern patterns inductionHypothesis =>
      rw [List.cons_append, spans_sequence_cons_iff]
      simp only [inductionHypothesis, spans_sequence_cons_iff]
      constructor
      · rintro ⟨left, _, rfl, head, middle, right, rfl, inner, tail⟩
        refine ⟨left ++ middle, right, (List.append_assoc left middle right).symm,
          ⟨left, middle, rfl, ?_, inner⟩, ?_⟩
        · rwa [← List.append_assoc]
        · rwa [← List.append_assoc]
      · rintro ⟨_, right, rfl, ⟨left, middle, rfl, head, inner⟩, tail⟩
        refine ⟨left, middle ++ right, List.append_assoc left middle right, ?_,
          middle, right, rfl, inner, ?_⟩
        · rwa [List.append_assoc]
        · rwa [List.append_assoc]

/-- Two rows of patterns, one behind the other, describe the product of their languages. -/
theorem Describes.append {patterns others : List Pattern}
    (head : (sequence patterns).Describes language) (tail : (sequence others).Describes other) :
    (sequence (patterns ++ others)).Describes (language * other) := by
  intro before taken after
  simp only [spans_sequence_append_iff, head _ _ _, tail _ _ _, Language.mem_mul]
  constructor
  · rintro ⟨left, right, rfl, inFirst, inSecond⟩
    exact ⟨left, inFirst, right, inSecond, rfl⟩
  · rintro ⟨left, inFirst, right, inSecond, rfl⟩
    exact ⟨left, right, rfl, inFirst, inSecond⟩

/-- A pattern that is bound to the start of the text occurs in what begins with its language. -/
theorem Describes.occursIn_start_iff {text : List Char} {rest : List Pattern}
    (describes : (sequence rest).Describes language) :
    OccursIn (sequence (.look .textStart :: rest)) text ↔
      ∃ taken after, text = taken ++ after ∧ taken ∈ language := by
  constructor
  · rintro ⟨before, taken, after, rfl, spans⟩
    obtain ⟨left, right, rfl, look, inner⟩ := spans_sequence_cons_iff.mp spans
    obtain ⟨rfl, atStart⟩ := spans_look_iff.mp look
    have nothing : before = [] := by
      cases before using List.reverseRecOn with
      | nil => rfl
      | append_singleton before c => simp [Look.holds] at atStart
    subst nothing
    exact ⟨right, after, rfl, (describes _ _ _).mp inner⟩
  · rintro ⟨taken, after, rfl, member⟩
    refine ⟨[], taken, after, rfl, spans_sequence_cons_iff.mpr ⟨[], taken, rfl, ?_, ?_⟩⟩
    · exact spans_look_iff.mpr ⟨rfl, rfl⟩
    · exact (describes _ _ _).mpr member

/-! ## Trees -/

namespace Written

variable {tree : Written}

theorem toPatterns_eq_map (trees : List Written) : toPatterns trees = trees.map toPattern := by
  induction trees with
  | nil => rfl
  | cons tree trees inductionHypothesis => rw [toPatterns, inductionHypothesis, List.map_cons]

theorem describes_set {alphabet : Alphabet} {members : CharSet} {property : Char → Prop}
    (decided : ∀ c, members.mem c = true ↔ property c) :
    (set alphabet members).toPattern.Describes (oneOf property) := by
  have same : (fun c => members.mem c = true) = property := funext fun c => propext (decided c)
  rw [← same]
  exact describes_one members

theorem describes_literal (c : Char) : (literal c).toPattern.Describes (anyCase [c]) := by
  have same : anyCase [c] = oneOf fun other => fold other = fold c := by
    ext text
    exact sameText_singleton_iff
  rw [same]
  apply describes_set
  intro other
  rw [CharSet.mem_ofChars, List.contains_iff_mem, mem_variants_iff]

/-- Literal characters in a row describe their text, where case does not matter. -/
theorem describes_literals (text : List Char) :
    (sequence ((text.map literal).map toPattern)).Describes (anyCase text) := by
  induction text with
  | nil =>
      rw [anyCase_nil]
      exact describes_sequence_nil
  | cons c rest inductionHypothesis =>
      have split := anyCase_append [c] rest
      rw [List.singleton_append] at split
      rw [split]
      exact (describes_literal c).cons inductionHypothesis

theorem describes_optional (describes : tree.toPattern.Describes language) :
    (optional tree).toPattern.Describes (1 + language) := by
  have once : (optional tree).toPattern = Pattern.optional tree.toPattern := by
    simp [optional, toPattern, repeated, between, times]
  rw [once]
  exact describes.optional

theorem describes_anyNumber (describes : tree.toPattern.Describes language)
    (loud : tree.toPattern.silent = false) :
    (anyNumber tree).toPattern.Describes language∗ := by
  have starred : (anyNumber tree).toPattern = star tree.toPattern := by
    simp [anyNumber, toPattern, repeated, between, loud]
  rw [starred]
  exact describes.star

theorem describes_atLeastOnce (describes : tree.toPattern.Describes language)
    (loud : tree.toPattern.silent = false) :
    (atLeastOnce tree).toPattern.Describes (language * language∗) := by
  have repeated : (atLeastOnce tree).toPattern = .plus tree.toPattern := by
    simp [atLeastOnce, toPattern, Pattern.repeated, between, loud]
  rw [repeated]
  exact describes.plus

end Written

end Pattern

end ContentBlocking
