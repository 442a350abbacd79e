import ContentBlocking.Proofs.Filter.DomainTree
import ContentBlocking.Proofs.Pattern.Languages
import ContentBlocking.Proofs.Url.Authority

/-!
# The parts of URLs that filters describe

The start of a filter describes how a URL may begin: with a scheme of the web, a scheme of web
sockets, both or none, and then with any number of labels. Whatever the rest of the filter describes
has to follow there, and any text may come behind it. Port numbers are described in two ways: a
filter for a domain does not insist on the colon.
-/

namespace ContentBlocking

open Text Pattern
open scoped Computability

namespace Url

/-! ## Starts of URLs -/

/-- A scheme with the given name, which may have an `s` behind it, or none. -/
def IsScheme (name : String) (text : List Char) : Prop :=
  text = [] ∨ SameText text name.toList ∨ SameText text (name.toList ++ ['s'])

/-- Whether a character becomes a hyphen, a digit or one of the letters `a` to `z` once it is
folded. -/
def isLabelChar (c : Char) : Bool :=
  fold c = '-' || (fold c).isDigit || ('a' ≤ fold c && fold c ≤ 'z')

def IsLabel (text : List Char) : Prop := text ≠ [] ∧ ∀ c ∈ text, isLabelChar c = true

instance (text : List Char) : Decidable (IsLabel text) :=
  decidable_of_iff (text ≠ [] ∧ text.all isLabelChar = true) (by rw [IsLabel, List.all_eq_true])

/-- Schemes, a colon with two slashes, and labels with a dot behind each. -/
def IsStart (text : List Char) : Prop :=
  ∃ (web socket : List Char) (labels : List (List Char)),
    text = web ++ socket ++ "://".toList ++ labels.flatMap (· ++ ['.']) ∧
      IsScheme "http" web ∧ IsScheme "ws" socket ∧ ∀ label ∈ labels, IsLabel label

theorem isStart_http : IsStart "http://".toList :=
  ⟨"http".toList, [], [], rfl, Or.inr (Or.inl rfl), Or.inl rfl, by simp⟩

end Url

namespace Text

/-- Digits and marks are alike to themselves only. -/
theorem anyCase_marks {marks : List Char}
    (low : (marks.all fun mark => mark.toNat < 0x61 ∧ fold mark = mark) = true) :
    anyCase marks = {marks} := by
  ext text
  constructor
  · intro same
    induction marks generalizing text with
    | nil => exact List.map_eq_nil_iff.mp same
    | cons mark marks inductionHypothesis =>
        obtain ⟨c, rest, rfl, folded, sameRest⟩ := List.map_eq_cons_iff.mp same
        rw [List.all_cons, Bool.and_eq_true, decide_eq_true_eq] at low
        obtain ⟨⟨isLow, unchanged⟩, laterLow⟩ := low
        rw [unchanged] at folded
        rw [eq_of_fold_eq isLow folded, inductionHypothesis laterLow rest sameRest]
        rfl
  · rintro rfl
    exact mem_anyCase_iff.mpr rfl

end Text

namespace Pattern

theorem mem_digits_iff {c : Char} : (CharSet.range '0' '9').mem c = true ↔ c.isDigit = true := by
  rw [CharSet.mem_range, Bool.and_eq_true, decide_eq_true_eq, decide_eq_true_eq, Char.isDigit,
    Bool.and_eq_true, decide_eq_true_eq, decide_eq_true_eq]
  rfl

theorem mem_labelChars_iff {c : Char} :
    labelChars.mem c = true ↔ Url.isLabelChar c = true := by
  have parts : (SetPart.ofParts labelParts).set =
      .unionAll [.single '-', .range '0' '9', .range 'a' 'z'] := by
    decide
  have folded : labelChars.mem c = true ↔
      (SetPart.ofParts labelParts).set.mem (fold c) = true := by
    rw [labelChars, ← Alphabet.closure_eq_withVariants (by decide +kernel)]
    exact Alphabet.mem_closure_iff_of_folded (by decide +kernel)
  have members : (SetPart.ofParts labelParts).set.mem (fold c) = true ↔
      fold c = '-' ∨ (fold c).isDigit = true ∨ ('a' ≤ fold c ∧ fold c ≤ 'z') := by
    rw [parts, CharSet.mem_unionAll, ← mem_digits_iff]
    simp only [List.any_cons, List.any_nil, Bool.or_eq_true, CharSet.mem_single,
      CharSet.mem_range 'a', Bool.and_eq_true, decide_eq_true_eq, Bool.or_false]
  rw [folded, members]
  simp only [Url.isLabelChar, Bool.or_eq_true, Bool.and_eq_true, decide_eq_true_eq, or_assoc]

end Pattern

namespace Filter

/-! ## The language of the start -/

theorem describes_scheme (name : List Char) :
    (Written.optional (.group (.seq
      (name.map .literal ++ [.optional (.literal 's')])))).toPattern.Describes
        (1 + anyCase name * (1 + anyCase ['s'])) := by
  have last := (Written.describes_optional (Written.describes_literal 's')).single
  have body := (Written.describes_literals name).append last
  refine Written.describes_optional ?_
  rwa [← List.map_singleton (f := Written.toPattern), ← List.map_append,
    ← Written.toPatterns_eq_map] at body

theorem mem_scheme_iff {name : String} {text : List Char} :
    text ∈ 1 + anyCase name.toList * (1 + anyCase ['s']) ↔ Url.IsScheme name text := by
  rw [mul_add, mul_one, ← anyCase_append]
  rfl

theorem describes_labels :
    (Written.anyNumber (.group (.seq
      [.atLeastOnce (.set .unicode labelChars), .literal '.']))).toPattern.Describes
        (oneOf (fun c => Url.isLabelChar c = true) *
          (oneOf fun c => Url.isLabelChar c = true)∗ * anyCase ['.'])∗ := by
  have labelChar : (Written.set .unicode labelChars).toPattern.Describes
      (oneOf fun c => Url.isLabelChar c = true) :=
    Written.describes_set fun _ => mem_labelChars_iff
  have label := Written.describes_atLeastOnce labelChar rfl
  exact Written.describes_anyNumber (label.cons (Written.describes_literal '.').single) rfl

theorem mem_labels_iff {text : List Char} :
    text ∈ (oneOf (fun c => Url.isLabelChar c = true) *
        (oneOf fun c => Url.isLabelChar c = true)∗ * anyCase ['.'])∗ ↔
      ∃ labels : List (List Char), text = labels.flatMap (· ++ ['.']) ∧
        ∀ label ∈ labels, Url.IsLabel label := by
  rw [anyCase_marks (by decide), Language.mem_kstar]
  constructor
  · rintro ⟨pieces, rfl, inLanguage⟩
    induction pieces with
    | nil => exact ⟨[], rfl, by simp⟩
    | cons piece pieces inductionHypothesis =>
        obtain ⟨labels, rest, areLabels⟩ := inductionHypothesis fun other member =>
          inLanguage other (List.mem_cons_of_mem piece member)
        obtain ⟨label, isLabel, dot, rfl, rfl⟩ :=
          Language.mem_mul.mp (inLanguage piece List.mem_cons_self)
        rw [mem_oneOf_mul_kstar_iff] at isLabel
        refine ⟨label :: labels, ?_, ?_⟩
        · rw [List.flatten_cons, rest, List.flatMap_cons]
        · intro other member
          rcases List.mem_cons.mp member with rfl | later
          · exact isLabel
          · exact areLabels other later
  · rintro ⟨labels, rfl, areLabels⟩
    refine ⟨labels.map (· ++ ['.']), List.flatMap_def, ?_⟩
    intro piece member
    obtain ⟨label, isMember, rfl⟩ := List.mem_map.mp member
    refine Language.mem_mul.mpr ⟨label, ?_, ['.'], rfl, rfl⟩
    rw [mem_oneOf_mul_kstar_iff]
    exact areLabels label isMember

/-- The trees of the start behind the condition that the text starts there. -/
def startTrees : List Written := (startItems.map Item.tree).tail

/-- The start of a filter describes the starts of URLs. -/
theorem describes_startTrees :
    ∃ language : Language Char, (sequence (startTrees.map Written.toPattern)).Describes language ∧
      ∀ text, text ∈ language ↔ Url.IsStart text := by
  have marks := Written.describes_literals "://".toList
  have described := (describes_scheme "http".toList).cons
    ((describes_scheme "ws".toList).cons (marks.append describes_labels.single))
  refine ⟨_, described, ?_⟩
  intro text
  simp only [Language.mem_mul, mem_scheme_iff, mem_labels_iff]
  rw [anyCase_marks (by decide)]
  constructor
  · rintro ⟨web, isWeb, _, ⟨socket, isSocket, _, ⟨_, rfl, _, ⟨labels, rfl, areLabels⟩, rfl⟩, rfl⟩, rfl⟩
    refine ⟨web, socket, labels, ?_, isWeb, isSocket, areLabels⟩
    simp only [List.append_assoc]
  · rintro ⟨web, socket, labels, rfl, isWeb, isSocket, areLabels⟩
    refine ⟨web, isWeb, _, ⟨socket, isSocket, _, ⟨_, rfl, _, ⟨labels, rfl, areLabels⟩, rfl⟩, rfl⟩, ?_⟩
    simp only [List.append_assoc]

/-- A filter occurs in the URLs that have what its rest describes behind a start. -/
theorem occursIn_start_iff {trees : List Written} {language : Language Char} {url : List Char}
    (described : (sequence (trees.map Written.toPattern)).Describes language) :
    (Written.seq (startItems.map Item.tree ++ trees)).toPattern.OccursIn url ↔
      ∃ start taken rest, url = start ++ taken ++ rest ∧ Url.IsStart start ∧ taken ∈ language := by
  obtain ⟨startLanguage, startDescribed, isStart⟩ := describes_startTrees
  have pattern : (Written.seq (startItems.map Item.tree ++ trees)).toPattern =
      sequence (.look .textStart ::
        (startTrees.map Written.toPattern ++ trees.map Written.toPattern)) := by
    rw [← List.map_append, Written.toPattern, Written.toPatterns_eq_map]
    rfl
  rw [pattern, (startDescribed.append described).occursIn_start_iff]
  constructor
  · rintro ⟨_, rest, rfl, member⟩
    obtain ⟨start, startMember, taken, takenMember, rfl⟩ := Language.mem_mul.mp member
    exact ⟨start, taken, rest, rfl, (isStart start).mp startMember, takenMember⟩
  · rintro ⟨start, taken, rest, rfl, starts, takenMember⟩
    exact ⟨start ++ taken, rest, rfl,
      Language.mem_mul.mpr ⟨start, (isStart start).mpr starts, taken, takenMember, rfl⟩⟩

/-- What may be left of a line changes nothing, since anything may come behind it. -/
theorem occursIn_start_line_iff {trees : List Written} {language : Language Char} {url : List Char}
    (described : (sequence (trees.map Written.toPattern)).Describes language) :
    (Written.seq (startItems.map Item.tree ++
        (trees ++ [.anyNumber (.set .unicode (.except '\n'))]))).toPattern.OccursIn url ↔
      ∃ start taken rest, url = start ++ taken ++ rest ∧ Url.IsStart start ∧ taken ∈ language := by
  have line : (Written.anyNumber (.set .unicode (.except '\n'))).toPattern.Describes
      (oneOf fun c => (CharSet.except '\n').mem c = true)∗ :=
    Written.describes_anyNumber (describes_one (.except '\n')) rfl
  have whole := described.append line.single
  rw [← List.map_singleton, ← List.map_append] at whole
  rw [occursIn_start_iff whole]
  constructor
  · rintro ⟨start, _, rest, rfl, isStart, member⟩
    obtain ⟨taken, inLanguage, left, _, rfl⟩ := Language.mem_mul.mp member
    refine ⟨start, taken, left ++ rest, ?_, isStart, inLanguage⟩
    simp only [List.append_assoc]
  · rintro ⟨start, taken, rest, rfl, isStart, inLanguage⟩
    refine ⟨start, taken, rest, rfl, isStart, Language.mem_mul.mpr ⟨taken, inLanguage, [], ?_, ?_⟩⟩
    · exact Language.nil_mem_kstar _
    · exact List.append_nil taken

/-! ## The languages of port numbers -/

theorem describes_number :
    (Written.atLeastOnce (.set .unicode (.range '0' '9'))).toPattern.Describes
      (oneOf (fun c => c.isDigit = true) * (oneOf fun c => c.isDigit = true)∗) :=
  Written.describes_atLeastOnce (Written.describes_set fun _ => mem_digits_iff) rfl

/-- A colon and digits, or nothing. -/
def portTree : Written :=
  .optional (.group (.seq [.literal ':', .atLeastOnce (.set .unicode (.range '0' '9'))]))

/-- Digits, in front of which a colon may stand, or nothing. -/
def loosePortTree : Written :=
  .optional (.group (.seq
    [.optional (.literal ':'), .atLeastOnce (.set .unicode (.range '0' '9'))]))

/-- The tree for a port number describes a colon with digits behind it, or nothing. -/
theorem describes_portTree :
    ∃ language : Language Char, portTree.toPattern.Describes language ∧
      ∀ text, text ∈ language ↔ Url.IsOptionalPort text := by
  have body := (Written.describes_literal ':').cons describes_number.single
  refine ⟨_, Written.describes_optional body, ?_⟩
  intro text
  rw [Language.mem_add, Language.mem_one, Language.mem_mul, anyCase_marks (by decide)]
  refine or_congr_right ?_
  constructor
  · rintro ⟨_, rfl, number, isNumber, rfl⟩
    exact ⟨number, rfl, mem_oneOf_mul_kstar_iff.mp isNumber⟩
  · rintro ⟨number, rfl, isNumber⟩
    exact ⟨[':'], rfl, number, mem_oneOf_mul_kstar_iff.mpr isNumber, rfl⟩

/-- The tree at the end of a domain describes digits with or without a colon, or nothing. -/
theorem describes_loosePortTree :
    ∃ language : Language Char, loosePortTree.toPattern.Describes language ∧
      ∀ text, text ∈ language ↔ Url.IsLoosePort text := by
  have colon := Written.describes_optional (Written.describes_literal ':')
  have body := colon.cons describes_number.single
  refine ⟨_, Written.describes_optional body, ?_⟩
  intro text
  rw [Language.mem_add, Language.mem_one, add_mul, one_mul, Language.mem_add, Language.mem_mul,
    anyCase_marks (by decide)]
  constructor
  · rintro (nothing | isNumber | ⟨_, rfl, number, isNumber, rfl⟩)
    · exact Or.inl (Or.inl nothing)
    · exact Or.inr (mem_oneOf_mul_kstar_iff.mp isNumber)
    · exact Or.inl (Or.inr ⟨number, rfl, mem_oneOf_mul_kstar_iff.mp isNumber⟩)
  · rintro ((nothing | ⟨number, rfl, isNumber⟩) | isNumber)
    · exact Or.inl nothing
    · exact Or.inr (Or.inr ⟨[':'], rfl, number, mem_oneOf_mul_kstar_iff.mpr isNumber, rfl⟩)
    · exact Or.inr (Or.inl (mem_oneOf_mul_kstar_iff.mpr isNumber))

end Filter

end ContentBlocking
