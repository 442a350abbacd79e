import ContentBlocking.Proofs.Filter.Escaping
import ContentBlocking.Proofs.Pattern.OutlineBound
import ContentBlocking.Proofs.Pattern.Reading
import ContentBlocking.Proofs.Text.Folding

/-!
# The filters for domains as trees

The start and the end of a filter for a domain are the same for all domains. In between stands the
domain, each of whose characters is read as itself unless it has a meaning in patterns and is not
escaped. So the tree of the filter is known.
-/

namespace ContentBlocking

open Text Pattern

namespace Pattern

variable {rest : List Char}

/-! ## The sets of filters for domains -/

def labelParts : List SetPart := [⟨.single '-', 0⟩, ⟨.range '0' '9', 0⟩, ⟨.range 'a' 'z', 0⟩]

/-- The characters of a label, with case ignored. -/
def labelChars : CharSet := Alphabet.withVariants (SetPart.ofParts labelParts).set

theorem readToken?_label :
    readToken? filterFlags ("[a-z0-9-]".toList ++ rest) =
      some (.bracket ⟨labelChars, 2⟩, rest) := by
  have parts : readBracket? filterFlags [] ⟨false, none, []⟩ ("a-z0-9-]".toList ++ rest) =
      readBracket? filterFlags [] ⟨false, none, labelParts⟩ (']' :: rest) := by
    refine (readBracket?_range rfl rfl).trans ?_
    refine (readBracket?_range rfl rfl).trans ?_
    exact readBracket?_range rfl rfl
  exact readToken?_bracket (by decide) parts
    (Alphabet.closure_eq_withVariants (by decide +kernel))

theorem readToken?_digit :
    readToken? filterFlags ("[0-9]".toList ++ rest) =
      some (.bracket ⟨.range '0' '9', 1⟩, rest) := by
  have part : readBracket? filterFlags [] ⟨false, none, []⟩ ("0-9]".toList ++ rest) =
      readBracket? filterFlags [] ⟨false, none, [⟨.range '0' '9', 0⟩]⟩ (']' :: rest) :=
    readBracket?_range rfl rfl
  -- No digit has case.
  have closed : Alphabet.closure .unicode (.range '0' '9') = .range '0' '9' := by
    rw [Alphabet.closure_eq_withVariants (by decide +kernel)]
    decide +kernel
  exact readToken?_bracket (by decide) part closed

end Pattern

namespace Filter

variable {rest : List Char}

/-! ## The parts of a filter -/

/-- The items for the start of a filter: two schemes, a colon, two slashes, and labels. -/
def startItems : List Item :=
  [{ tree := .look .textStart },
    ⟨.optional (.group (.seq [.literal 'h', .literal 't', .literal 't', .literal 'p',
      .optional (.literal 's')])), 4, true⟩,
    ⟨.optional (.group (.seq [.literal 'w', .literal 's', .optional (.literal 's')])), 4, true⟩,
    { tree := .literal ':' }, { tree := .literal '/' }, { tree := .literal '/' },
    ⟨.anyNumber (.group (.seq [.atLeastOnce (.set .unicode labelChars), .literal '.'])), 6, true⟩]

/-- The reader takes the start of a filter for the items of the start, whatever follows. -/
theorem readItem?_subdomainStart (noQuestionMark : rest.head? ≠ some '?') :
    readItem? ⟨[], .new filterFlags false, []⟩ (subdomainStart.toList ++ rest) =
      readItem? ⟨[], ⟨filterFlags, false, [], startItems.reverse⟩, []⟩ rest := by
  have text : subdomainStart.toList =
      ['^', '(', 'h', 't', 't', 'p', 's', '?', ')', '?', '(', 'w', 's', 's', '?', ')', '?',
        ':', '/', '/', '('] ++ "[a-z0-9-]".toList ++ ['+', '\\', '.', ')', '*'] := by
    decide
  have caret : ∀ text, readItem? ⟨[], .new filterFlags false, []⟩ ('^' :: text) =
      readItem? ⟨[], ⟨filterFlags, false, [], [{ tree := .look .textStart }]⟩, []⟩ text :=
    fun _ => readItem?_cons rfl rfl rfl
  rw [text, List.append_assoc, List.append_assoc]
  refine (caret _).trans ?_
  repeat first
    | refine (readItem?_opening (by simp)).trans ?_
    | refine (readItem?_plain (by decide)).trans ?_
    | refine (readItem?_repetition (fun _ _ => rfl) (by simp) rfl).trans ?_
    | refine (readItem?_closing rfl).trans ?_
  refine (readItem?_cons rfl readToken?_label rfl).trans ?_
  refine (readItem?_repetition (fun _ _ => rfl) (by simp) rfl).trans ?_
  refine (readItem?_escaped rfl).trans ?_
  refine (readItem?_closing rfl).trans ?_
  exact readItem?_repetition (fun _ _ => rfl) noQuestionMark rfl

/-! ## Domains -/

/-- Whether a character that is written with `escape` stands for itself. -/
def isLiteral (c : Char) : Bool :=
  isPlain c || c = '\\' || c = '.'

/-- Only backslashes and dots may have a property whose characters all stand for themselves. -/
theorem isLiteral_of_property {property : Char → Bool} {c : Char}
    (unmarked : (['\\', '.', '^', '$', '|', '(', ')', '[', '?', '*', '+', '\x7b'].all
      fun mark => property mark = true → isLiteral mark = true) = true)
    (holds : property c = true) : isLiteral c = true := by
  by_cases special : c ∈ ['\\', '.', '^', '$', '|', '(', ')', '[', '?', '*', '+', '\x7b']
  · have literal := List.all_eq_true.mp unmarked c special
    exact of_decide_eq_true literal holds
  · have plain : isPlain c = true := decide_eq_true special
    rw [isLiteral, plain]
    rfl

variable {items : List Item}

/-- The reader takes an escaped text for its characters, each by itself, if none of them has a
meaning in patterns. -/
theorem readItem?_escapeChars {text : List Char} (literal : text.all isLiteral = true) :
    readItem? ⟨[], ⟨filterFlags, false, [], items⟩, []⟩ (escapeChars text ++ rest) =
      readItem? ⟨[], ⟨filterFlags, false, [],
        (text.map fun c => { tree := .literal c }).reverse ++ items⟩, []⟩ rest := by
  induction text generalizing items with
  | nil => rfl
  | cons c text inductionHypothesis =>
      rw [List.all_cons, Bool.and_eq_true] at literal
      have first : readItem? ⟨[], ⟨filterFlags, false, [], items⟩, []⟩
          (escapeChars (c :: text) ++ rest) =
          readItem? ⟨[], ⟨filterFlags, false, [], { tree := .literal c } :: items⟩, []⟩
            (escapeChars text ++ rest) := by
        rw [escapeChars_cons]
        split
        · rename_i special
          rcases special with rfl | rfl | rfl
          all_goals exact readItem?_escaped rfl
        · rename_i ordinary
          have plain : isPlain c = true := by
            have stands := literal.1
            simp only [not_or] at ordinary
            simpa [isLiteral, ordinary.1, ordinary.2.1] using stands
          exact readItem?_plain plain
      rw [first, inductionHypothesis literal.2]
      simp

/-- The items for the end of a filter: a port number, a slash, and any characters of one line. -/
def endItems : List Item :=
  [⟨.optional (.group (.seq [.optional (.literal ':'),
      .atLeastOnce (.set .unicode (.range '0' '9'))])), 5, true⟩,
    { tree := .literal '/' },
    ⟨.anyNumber (.set .unicode (.except '\n')), 1, true⟩]

def lineItem : Item := ⟨.anyNumber (.set .unicode (.except '\n')), 1, true⟩

theorem readItem?_line :
    readItem? ⟨[], ⟨filterFlags, false, [], items⟩, []⟩ ".*".toList =
      some (OpenGroup.contents ⟨filterFlags, false, [], lineItem :: items⟩) := by
  refine (readItem?_cons rfl rfl rfl).trans ?_
  refine (readItem?_repetition (fun _ _ => rfl) (by simp) rfl).trans ?_
  exact readItem?_nil rfl

/-- The reader takes the end of a filter for the items of the end. -/
theorem readItem?_domainEnd :
    readItem? ⟨[], ⟨filterFlags, false, [], items⟩, []⟩ domainEnd.toList =
      some (OpenGroup.contents ⟨filterFlags, false, [], endItems.reverse ++ items⟩) := by
  have text : domainEnd.toList =
      ['(', ':', '?'] ++ ("[0-9]".toList ++ ['+', ')', '?', '/', '.', '*']) := by
    decide
  rw [text]
  refine (readItem?_opening (by simp)).trans ?_
  refine (readItem?_plain (by decide)).trans ?_
  refine (readItem?_repetition (fun _ _ => rfl) (by simp) rfl).trans ?_
  refine (readItem?_cons rfl readToken?_digit rfl).trans ?_
  refine (readItem?_repetition (fun _ _ => rfl) (by simp) rfl).trans ?_
  refine (readItem?_closing rfl).trans ?_
  refine (readItem?_repetition (fun _ _ => rfl) (by simp) rfl).trans ?_
  refine (readItem?_plain (by decide)).trans ?_
  exact readItem?_line

def domainItems (domain : List Char) : List Item :=
  startItems ++ domain.map (fun c => { tree := .literal c }) ++ endItems

def domainTree (domain : List Char) : Written := .seq ((domainItems domain).map Item.tree)

theorem nestedDepth_le {bound : Nat} (bounded : ∀ item ∈ items, item.depth ≤ bound) :
    nestedDepth items ≤ bound + 1 := by
  have kept : ∀ (rest : List Item) (depth : Nat), depth ≤ bound →
      (∀ item ∈ rest, item.depth ≤ bound) → (rest.map Item.depth).foldl max depth ≤ bound := by
    intro rest
    induction rest with
    | nil => exact fun _ within _ => within
    | cons item rest inductionHypothesis =>
        intro depth within restWithin
        exact inductionHypothesis (max depth item.depth)
          (Nat.max_le.mpr ⟨within, restWithin item List.mem_cons_self⟩)
          fun other member => restWithin other (List.mem_cons_of_mem item member)
  exact Nat.succ_le_succ (kept items 0 (Nat.zero_le bound) bounded)

theorem head?_escapeChars_ne {text after : List Char}
    (literal : text.all isLiteral = true) (noQuestionMark : after.head? ≠ some '?') :
    (escapeChars text ++ after).head? ≠ some '?' := by
  cases text with
  | nil => exact noQuestionMark
  | cons c text =>
      rw [escapeChars_cons]
      split
      · simp
      · intro isFirst
        cases Option.some.inj isFirst
        rw [List.all_cons] at literal
        cases literal

theorem contents_of_two_le {flags : Flags} {noted : Bool} (several : 2 ≤ items.length) :
    OpenGroup.contents ⟨flags, noted, [], items⟩ =
      ⟨.seq (items.reverse.map Item.tree), nestedDepth items, true⟩ := by
  match items with
  | [] => simp at several
  | [_] => simp at several
  | _ :: _ :: _ => rfl

/-- A filter is read into a sequence if all behind its start is read into items that are not nested
too deeply. -/
theorem written_of_readItem? {middle : List Char} (noQuestionMark : middle.head? ≠ some '?')
    (read : readItem? ⟨[], ⟨filterFlags, false, [], startItems.reverse⟩, []⟩ middle =
      some (OpenGroup.contents ⟨filterFlags, false, [], items.reverse ++ startItems.reverse⟩))
    (shallow : ∀ item ∈ items, item.depth ≤ 6) :
    Written.ofChars? filterFlags (subdomainStart.toList ++ middle) =
      some (.seq ((startItems ++ items).map Item.tree)) := by
  have several : 2 ≤ (items.reverse ++ startItems.reverse).length := by
    rw [List.length_append]
    exact Nat.le_trans (by decide) (Nat.le_add_left startItems.reverse.length _)
  have together : items.reverse ++ startItems.reverse = (startItems ++ items).reverse :=
    List.reverse_append.symm
  have everyItem : ∀ item ∈ (startItems ++ items).reverse, item.depth ≤ 6 := by
    intro item member
    rcases List.mem_append.mp (List.mem_reverse.mp member) with atStart | later
    · have shallowStart : ∀ item ∈ startItems, item.depth ≤ 6 := by
        simp [startItems]
      exact shallowStart item atStart
    · exact shallow item later
  rw [contents_of_two_le several, together, List.reverse_reverse] at read
  rw [Written.ofChars?, readItem?_subdomainStart noQuestionMark, read]
  exact if_pos (Nat.le_trans (nestedDepth_le everyItem) (by decide))

/-- The filter for a domain is read as the tree for the domain. -/
theorem written_ofDomain {domain : String} (literal : domain.toList.all isLiteral = true) :
    Written.ofChars? filterFlags (ofDomain domain).toList = some (domainTree domain.toList) := by
  have items : endItems.reverse ++
      ((domain.toList.map fun c => ({ tree := .literal c } : Item)).reverse ++
        startItems.reverse) =
      (domain.toList.map (fun c => ({ tree := .literal c } : Item)) ++ endItems).reverse ++
        startItems.reverse := by
    rw [List.reverse_append, List.append_assoc]
  have read : readItem? ⟨[], ⟨filterFlags, false, [], startItems.reverse⟩, []⟩
      (escapeChars domain.toList ++ domainEnd.toList) = _ :=
    (readItem?_escapeChars literal).trans readItem?_domainEnd
  rw [items] at read
  rw [ofDomain, escape, String.toList_append, String.toList_append, String.toList_ofList,
    List.append_assoc, domainTree, domainItems, List.append_assoc]
  refine written_of_readItem? (head?_escapeChars_ne literal (by decide)) read ?_
  intro item member
  rcases List.mem_append.mp member with inDomain | atEnd
  · obtain ⟨c, _, rfl⟩ := List.mem_map.mp inDomain
    exact Nat.zero_le 6
  · have shallowEnd : ∀ item ∈ endItems, item.depth ≤ 6 := by
      simp [endItems]
    exact shallowEnd item atEnd

/-- The filter for a domain matches what its tree describes, unless it is refused for its size. -/
theorem matches_ofDomain_iff {domain url : String}
    (literal : domain.toList.all isLiteral = true)
    (small : (domainTree domain.toList).outline.isSmall = true) :
    Matches (ofDomain domain) url ↔ (domainTree domain.toList).toPattern.OccursIn url.toList :=
  matches_iff_of_written (written_ofDomain literal) small

end Filter

end ContentBlocking
