import ContentBlocking.Pattern.Progress

/-!
# The search finds what occurs

The marks of a search are pinned down by the places at which attempts have begun: a character place
is marked if some attempt has just taken the last character there. `Tracks` says so for a whole
progress, and reading a character keeps it. The main statement, `occursIn_iff`, says that the search
succeeds exactly if some stretch of the text is described by the pattern.
-/

namespace ContentBlocking.Pattern

open ContentBlocking.Text

/-- A set of places in a text, each given by what stands before it and after it. -/
abbrev Places := List Char → List Char → Prop

def Reached (pattern : Pattern) (starts : Places) : Places := fun before after =>
  ∃ front taken, before = front ++ taken ∧ starts front (taken ++ after) ∧
    pattern.Spans front taken after

/-- The places that a pattern reaches from some of the given places by taking characters. -/
def Arrived (pattern : Pattern) (starts : Places) : Places := fun before after =>
  ∃ front taken, taken ≠ [] ∧ before = front ++ taken ∧ starts front (taken ++ after) ∧
    pattern.Spans front taken after

/-- The places at which a repetition of a pattern begins or goes on. -/
def Resumed (body : Pattern) (starts : Places) : Places := fun before after =>
  starts before after ∨ Reached (.plus body) starts before after

/-- No attempt that began at the given places has just taken a character inside the pattern. -/
def Untouched (before after : List Char) : Pattern → Places → Prop
  | .empty, _ | .look _, _ => True
  | .one set, starts =>
      ¬ ∃ front c, before = front ++ [c] ∧ starts front (c :: after) ∧ set.mem c = true
  | .seq first second, starts =>
      Untouched before after first starts ∧ Untouched before after second (Reached first starts)
  | .either left right, starts =>
      Untouched before after left starts ∧ Untouched before after right starts
  | .double body, starts =>
      Untouched before after body starts ∧ Untouched before after body (Reached body starts)
  | .plus body, starts => Untouched before after body (Resumed body starts)

/-- Whether the marks of a progress say, at a place, where the attempts that began at the given
places have arrived. -/
def Tracks (before after : List Char) : Pattern → Places → Progress → Prop
  | pattern, starts, .idle other => other = pattern ∧ Untouched before after pattern starts
  | .one set, starts, .taken other =>
      other = set ∧ ∃ front c,
        before = front ++ [c] ∧ starts front (c :: after) ∧ set.mem c = true
  | .seq first second, starts, .seq left right =>
      Tracks before after first starts left ∧
        Tracks before after second (Reached first starts) right
  | .either first second, starts, .either left right =>
      Tracks before after first starts left ∧ Tracks before after second starts right
  | .double body, starts, .double left right =>
      Tracks before after body starts left ∧ Tracks before after body (Reached body starts) right
  | .double body, starts, .twin half =>
      Tracks before after body starts half ∧ Tracks before after body (Reached body starts) half
  | .plus body, starts, .plus inner => Tracks before after body (Resumed body starts) inner
  | _, _, _ => False

/-! ## Stretches of repetitions -/

theorem Spans.append_plus {body : Pattern} {before left right after : List Char}
    (head : Spans (.plus body) before left (right ++ after))
    (tail : Spans (.plus body) (before ++ left) right after) :
    Spans (.plus body) before (left ++ right) after := by
  generalize shape : Pattern.plus body = pattern at head
  generalize behind : right ++ after = following at head
  induction head with
  | once spans =>
      cases shape
      subst behind
      exact .again spans tail
  | again first rest _ ih =>
      cases shape
      subst behind
      rw [List.append_assoc]
      refine .again (by simpa [List.append_assoc] using first) (ih ?_ rfl rfl)
      simpa [List.append_assoc] using tail
  | _ => cases shape

theorem spans_empty_iff {before taken after : List Char} :
    Spans .empty before taken after ↔ taken = [] := by
  constructor
  · rintro ⟨⟩
    rfl
  · rintro rfl
    exact .empty

theorem spans_look_iff {condition : Look} {before taken after : List Char} :
    Spans (.look condition) before taken after ↔
      taken = [] ∧ condition.holds before.getLast? after.head? = true := by
  constructor
  · rintro ⟨⟩
    exact ⟨rfl, by assumption⟩
  · rintro ⟨rfl, holds⟩
    exact .look holds

theorem spans_one_iff {set : CharSet} {before taken after : List Char} :
    Spans (.one set) before taken after ↔ ∃ c, taken = [c] ∧ set.mem c = true := by
  constructor
  · rintro ⟨⟩
    exact ⟨_, rfl, by assumption⟩
  · rintro ⟨c, rfl, member⟩
    exact .one member

theorem spans_seq_iff {first second : Pattern} {before taken after : List Char} :
    Spans (.seq first second) before taken after ↔
      ∃ left right, taken = left ++ right ∧ Spans first before left (right ++ after) ∧
        Spans second (before ++ left) right after := by
  constructor
  · rintro ⟨⟩
    exact ⟨_, _, rfl, by assumption, by assumption⟩
  · rintro ⟨left, right, rfl, head, tail⟩
    exact .seq head tail

theorem spans_either_iff {first second : Pattern} {before taken after : List Char} :
    Spans (.either first second) before taken after ↔
      Spans first before taken after ∨ Spans second before taken after := by
  constructor
  · rintro ⟨⟩
    · exact .inl (by assumption)
    · exact .inr (by assumption)
  · rintro (spans | spans)
    · exact .left spans
    · exact .right spans

theorem spans_double_iff {body : Pattern} {before taken after : List Char} :
    Spans (.double body) before taken after ↔ Spans (.seq body body) before taken after := by
  constructor
  · rintro ⟨⟩
    assumption
  · exact .double

theorem spans_double_nil_iff {body : Pattern} {before after : List Char} :
    Spans (.double body) before [] after ↔ Spans body before [] after := by
  rw [spans_double_iff, spans_seq_iff]
  constructor
  · rintro ⟨left, right, none, head, _⟩
    obtain ⟨rfl, rfl⟩ := List.append_eq_nil_iff.1 none.symm
    exact head
  · exact fun spans => ⟨[], [], rfl, spans, by simpa using spans⟩

/-- A repetition that takes a character ends with a stretch that takes one. -/
theorem Spans.last_of_plus {body : Pattern} {before taken after : List Char}
    (spans : Spans (.plus body) before taken after) (filled : taken ≠ []) :
    ∃ left right, taken = left ++ right ∧ right ≠ [] ∧
      (left = [] ∨ Spans (.plus body) before left (right ++ after)) ∧
      Spans body (before ++ left) right after := by
  generalize shape : Pattern.plus body = pattern at spans
  induction spans with
  | once spans =>
      cases shape
      exact ⟨[], _, rfl, filled, .inl rfl, by simpa using spans⟩
  | @again _ before left right after first rest _ ih =>
      cases shape
      by_cases more : right = []
      · subst more
        refine ⟨[], left, by simp, by simpa using filled, .inl rfl, by simpa using first⟩
      · obtain ⟨middle, last, rfl, lastFilled, earlier, spans⟩ := ih more rfl
        refine ⟨left ++ middle, last, by simp, lastFilled, .inr ?_, by simpa using spans⟩
        rcases earlier with rfl | earlier
        · exact .once (by simpa using first)
        · exact .again (by simpa [List.append_assoc] using first) earlier
  | _ => cases shape

theorem spans_plus_nil_iff {body : Pattern} {before after : List Char} :
    Spans (.plus body) before [] after ↔ Spans body before [] after := by
  constructor
  · intro spans
    generalize shape : Pattern.plus body = pattern at spans
    generalize none : ([] : List Char) = taken at spans
    induction spans with
    | once spans =>
        cases shape
        exact spans
    | again first rest _ ih =>
        cases shape
        obtain ⟨rfl, rfl⟩ := List.append_eq_nil_iff.1 none.symm
        exact first
    | _ => cases shape
  · exact .once

/-! ## Places -/

/-- A pattern is left by a character that it takes, or at once where it describes the empty stretch.
-/
theorem reached_iff {pattern : Pattern} {starts : Places} {before after : List Char} :
    Reached pattern starts before after ↔
      Arrived pattern starts before after ∨
        (starts before after ∧ pattern.Spans before [] after) := by
  constructor
  · rintro ⟨front, taken, rfl, began, spans⟩
    cases taken with
    | nil => exact .inr (by simpa using ⟨began, spans⟩)
    | cons c rest => exact .inl ⟨front, c :: rest, by simp, rfl, began, spans⟩
  · rintro (⟨front, taken, _, rfl, began, spans⟩ | ⟨began, spans⟩)
    · exact ⟨front, taken, rfl, began, spans⟩
    · exact ⟨before, [], by simp, began, spans⟩

/-- Attempts arrive behind a sequence by a character of its second part, or of its first part if the
second one is passed without a character. -/
theorem arrived_seq_iff {first second : Pattern} {starts : Places} {before after : List Char} :
    Arrived (.seq first second) starts before after ↔
      Arrived second (Reached first starts) before after ∨
        (Arrived first starts before after ∧ second.Spans before [] after) := by
  constructor
  · rintro ⟨front, taken, filled, rfl, began, spans⟩
    obtain ⟨left, right, rfl, head, tail⟩ := spans_seq_iff.1 spans
    by_cases more : right = []
    · subst more
      exact .inr ⟨⟨front, left, by simpa using filled, by simp, by simpa using began,
        by simpa using head⟩, by simpa using tail⟩
    · exact .inl ⟨front ++ left, right, more, by simp,
        ⟨front, left, rfl, by simpa using began, head⟩, tail⟩
  · rintro (⟨_, right, more, rfl, ⟨front, left, rfl, began, head⟩, tail⟩ |
      ⟨⟨front, left, filled, rfl, began, head⟩, tail⟩)
    · exact ⟨front, left ++ right, by simp [more], by simp, by simpa using began,
        .seq head tail⟩
    · refine ⟨front, left, filled, rfl, began, ?_⟩
      simpa using Spans.seq (by simpa using head) tail

theorem arrived_either_iff {first second : Pattern} {starts : Places} {before after : List Char} :
    Arrived (.either first second) starts before after ↔
      Arrived first starts before after ∨ Arrived second starts before after := by
  constructor
  · rintro ⟨front, taken, filled, rfl, began, spans⟩
    rcases spans_either_iff.1 spans with spans | spans
    · exact .inl ⟨front, taken, filled, rfl, began, spans⟩
    · exact .inr ⟨front, taken, filled, rfl, began, spans⟩
  · rintro (⟨front, taken, filled, rfl, began, spans⟩ | ⟨front, taken, filled, rfl, began, spans⟩)
    · exact ⟨front, taken, filled, rfl, began, .left spans⟩
    · exact ⟨front, taken, filled, rfl, began, .right spans⟩

theorem arrived_double_iff {body : Pattern} {starts : Places} {before after : List Char} :
    Arrived (.double body) starts before after ↔
      Arrived body (Reached body starts) before after ∨
        (Arrived body starts before after ∧ body.Spans before [] after) := by
  rw [← arrived_seq_iff]
  simp only [Arrived, spans_double_iff]

/-- A repetition arrives where its body does, counted from the places where it begins or goes on. -/
theorem arrived_plus_iff {body : Pattern} {starts : Places} {before after : List Char} :
    Arrived (.plus body) starts before after ↔
      Arrived body (Resumed body starts) before after := by
  constructor
  · rintro ⟨front, taken, filled, rfl, began, spans⟩
    obtain ⟨left, right, rfl, lastFilled, earlier, last⟩ := spans.last_of_plus filled
    refine ⟨front ++ left, right, lastFilled, by simp, ?_, last⟩
    rcases earlier with rfl | earlier
    · exact .inl (by simpa using began)
    · exact .inr ⟨front, left, rfl, by simpa using began, earlier⟩
  · rintro ⟨front, taken, filled, rfl, began | ⟨front, left, rfl, began, earlier⟩, spans⟩
    · exact ⟨front, taken, filled, rfl, began, .once spans⟩
    · exact ⟨front, left ++ taken, by simp [filled], by simp, by simpa using began,
        earlier.append_plus (.once spans)⟩

/-- A repetition goes on wherever it has arrived. -/
theorem resumed_iff {body : Pattern} {starts : Places} {before after : List Char} :
    Resumed body starts before after ↔
      starts before after ∨ Arrived body (Resumed body starts) before after := by
  rw [← arrived_plus_iff]
  unfold Resumed
  rw [reached_iff]
  constructor
  · rintro (began | arrived | ⟨began, _⟩)
    · exact .inl began
    · exact .inr arrived
    · exact .inl began
  · rintro (began | arrived)
    · exact .inl began
    · exact .inr (.inl arrived)

/-! ## Patterns without marks -/

/-- The test for the empty stretch agrees with what the pattern describes there. -/
theorem passes_iff {before after : List Char} {pattern : Pattern} :
    pattern.passes before.getLast? after.head? = true ↔ pattern.Spans before [] after := by
  induction pattern with
  | empty => simp [passes, spans_empty_iff]
  | look condition => simp [passes, spans_look_iff]
  | one set => simp [passes, spans_one_iff]
  | seq first second firstIH secondIH =>
      rw [passes, Bool.and_eq_true, firstIH, secondIH, spans_seq_iff]
      constructor
      · rintro ⟨head, tail⟩
        exact ⟨[], [], rfl, head, by simpa using tail⟩
      · rintro ⟨left, right, none, head, tail⟩
        obtain ⟨rfl, rfl⟩ := List.append_eq_nil_iff.1 none.symm
        exact ⟨head, by simpa using tail⟩
  | either first second firstIH secondIH =>
      rw [passes, Bool.or_eq_true, firstIH, secondIH, spans_either_iff]
  | double body ih => rw [passes, ih, spans_double_nil_iff]
  | plus body ih => rw [passes, ih, spans_plus_nil_iff]

theorem arrived_empty {starts : Places} {before after : List Char} :
    ¬ Arrived .empty starts before after := by
  rintro ⟨front, taken, filled, _, _, spans⟩
  exact filled (spans_empty_iff.1 spans)

theorem arrived_look {condition : Look} {starts : Places} {before after : List Char} :
    ¬ Arrived (.look condition) starts before after := by
  rintro ⟨front, taken, filled, _, _, spans⟩
  exact filled (spans_look_iff.1 spans).1

theorem arrived_one_iff {set : CharSet} {starts : Places} {before after : List Char} :
    Arrived (.one set) starts before after ↔
      ∃ front c, before = front ++ [c] ∧ starts front (c :: after) ∧ set.mem c = true := by
  constructor
  · rintro ⟨front, taken, _, rfl, began, spans⟩
    obtain ⟨c, rfl, member⟩ := spans_one_iff.1 spans
    exact ⟨front, c, rfl, began, member⟩
  · rintro ⟨front, c, rfl, began, member⟩
    exact ⟨front, [c], by simp, rfl, began, .one member⟩

/-- Where no attempt has just taken a character inside a pattern, none has arrived behind it. -/
theorem Untouched.not_arrived {before after : List Char} {pattern : Pattern} {starts : Places}
    (untouched : Untouched before after pattern starts) :
    ¬ Arrived pattern starts before after := by
  induction pattern generalizing starts with
  | empty => exact arrived_empty
  | look condition => exact arrived_look
  | one set => exact fun arrived => untouched (arrived_one_iff.1 arrived)
  | seq first second firstIH secondIH =>
      rw [arrived_seq_iff]
      rintro (arrived | ⟨arrived, _⟩)
      · exact secondIH untouched.2 arrived
      · exact firstIH untouched.1 arrived
  | either left right leftIH rightIH =>
      rw [arrived_either_iff]
      rintro (arrived | arrived)
      · exact leftIH untouched.1 arrived
      · exact rightIH untouched.2 arrived
  | double body ih =>
      rw [arrived_double_iff]
      rintro (arrived | ⟨arrived, _⟩)
      · exact ih untouched.2 arrived
      · exact ih untouched.1 arrived
  | plus body ih =>
      rw [arrived_plus_iff]
      exact ih untouched

/-- Before the first character no attempt has taken one. -/
theorem untouched_start (pattern : Pattern) (starts : Places) (after : List Char) :
    Untouched [] after pattern starts := by
  induction pattern generalizing starts with
  | empty | look condition => trivial
  | one set => simp [Untouched]
  | seq first second firstIH secondIH => exact ⟨firstIH _, secondIH _⟩
  | either first second firstIH secondIH => exact ⟨firstIH _, secondIH _⟩
  | double body ih => exact ⟨ih _, ih _⟩
  | plus body ih => exact ih _

/-- Reading a character touches nothing where no attempt begins. -/
theorem Untouched.next {before after : List Char} {c : Char} {pattern : Pattern} {starts : Places}
    (untouched : Untouched before (c :: after) pattern starts)
    (still : ¬ starts before (c :: after)) :
    Untouched (before ++ [c]) after pattern starts := by
  induction pattern generalizing starts with
  | empty | look condition => trivial
  | one set =>
      rintro ⟨front, last, same, here, _⟩
      obtain ⟨rfl, tail⟩ := List.append_inj' same rfl
      cases tail
      exact still here
  | seq first second firstIH secondIH =>
      refine ⟨firstIH untouched.1 still, secondIH untouched.2 ?_⟩
      rw [reached_iff]
      rintro (arrived | ⟨here, _⟩)
      · exact untouched.1.not_arrived arrived
      · exact still here
  | either left right leftIH rightIH =>
      exact ⟨leftIH untouched.1 still, rightIH untouched.2 still⟩
  | double body ih =>
      refine ⟨ih untouched.1 still, ih untouched.2 ?_⟩
      rw [reached_iff]
      rintro (arrived | ⟨here, _⟩)
      · exact untouched.1.not_arrived arrived
      · exact still here
  | plus body ih =>
      refine ih untouched ?_
      rw [resumed_iff]
      rintro (here | arrived)
      · exact still here
      · have inside : Untouched before (c :: after) body (Resumed body starts) := untouched
        exact inside.not_arrived arrived

/-! ## Progress -/

theorem tracks_idle_iff {before after : List Char} {pattern other : Pattern} {starts : Places} :
    Tracks before after pattern starts (.idle other) ↔
      other = pattern ∧ Untouched before after pattern starts := by
  cases pattern <;> rfl

theorem tracks_mark {before after : List Char} {set : CharSet} {starts : Places} {here : Bool}
    (marked : here = true ↔ ∃ front c,
      before = front ++ [c] ∧ starts front (c :: after) ∧ set.mem c = true) :
    Tracks before after (.one set) starts (Progress.mark set here) := by
  cases here with
  | true => exact ⟨rfl, marked.1 rfl⟩
  | false => exact ⟨rfl, fun found => absurd (marked.2 found) Bool.false_ne_true⟩

/-- Progresses in the parts of a sequence make one in the sequence. -/
theorem Tracks.followedBy {before after : List Char} {first second : Pattern} {starts : Places}
    {left right : Progress} (head : Tracks before after first starts left)
    (tail : Tracks before after second (Reached first starts) right) :
    Tracks before after (.seq first second) starts (left.followedBy right) := by
  cases left <;> cases right
  case idle.idle =>
    rw [tracks_idle_iff] at head tail
    exact ⟨by rw [head.1, tail.1], head.2, tail.2⟩
  all_goals exact ⟨head, tail⟩

theorem Tracks.orElse {before after : List Char} {first second : Pattern} {starts : Places}
    {left right : Progress} (one : Tracks before after first starts left)
    (other : Tracks before after second starts right) :
    Tracks before after (.either first second) starts (left.orElse right) := by
  cases left <;> cases right
  case idle.idle =>
    rw [tracks_idle_iff] at one other
    exact ⟨by rw [one.1, other.1], one.2, other.2⟩
  all_goals exact ⟨one, other⟩

theorem Tracks.doubled {before after : List Char} {body : Pattern} {starts : Places}
    {left right : Progress} (head : Tracks before after body starts left)
    (tail : Tracks before after body (Reached body starts) right) :
    Tracks before after (.double body) starts (left.doubled right) := by
  cases left <;> cases right
  case idle.idle =>
    rw [tracks_idle_iff] at head tail
    exact ⟨by rw [head.1], head.2, tail.2⟩
  all_goals exact ⟨head, tail⟩

theorem Tracks.both {before after : List Char} {body : Pattern} {starts : Places}
    {half : Progress} (head : Tracks before after body starts half)
    (tail : Tracks before after body (Reached body starts) half) :
    Tracks before after (.double body) starts half.both := by
  cases half
  case idle =>
    rw [tracks_idle_iff] at head tail
    exact ⟨by rw [head.1], head.2, tail.2⟩
  all_goals exact ⟨head, tail⟩

theorem Tracks.again {before after : List Char} {body : Pattern} {starts : Places}
    {inner : Progress} (tracks : Tracks before after body (Resumed body starts) inner) :
    Tracks before after (.plus body) starts inner.again := by
  cases inner
  case idle =>
    rw [tracks_idle_iff] at tracks
    exact ⟨by rw [tracks.1], tracks.2⟩
  all_goals exact tracks

/-- The end of a pattern is reached by attempts that have arrived there and by new ones that pass
through. -/
theorem Tracks.leaves_iff {before after : List Char} {pattern : Pattern} {starts : Places}
    {progress : Progress} {fresh : Bool} (tracks : Tracks before after pattern starts progress) :
    progress.leaves before.getLast? after.head? fresh = true ↔
      Arrived pattern starts before after ∨ (fresh = true ∧ pattern.Spans before [] after) := by
  induction progress generalizing pattern starts fresh with
  | idle other =>
      obtain ⟨rfl, untouched⟩ := tracks_idle_iff.1 tracks
      rw [Progress.leaves, Bool.and_eq_true, passes_iff]
      exact (or_iff_right untouched.not_arrived).symm
  | taken other =>
      cases pattern <;> simp only [Tracks] at tracks
      simpa [Progress.leaves] using Or.inl (arrived_one_iff.2 tracks.2)
  | seq left right leftIH rightIH =>
      cases pattern <;> simp only [Tracks] at tracks
      rw [Progress.leaves, rightIH tracks.2, leftIH tracks.1, arrived_seq_iff, spans_seq_iff]
      constructor
      · rintro (arrived | ⟨arrived | ⟨here, head⟩, tail⟩)
        · exact .inl (.inl arrived)
        · exact .inl (.inr ⟨arrived, tail⟩)
        · exact .inr ⟨here, [], [], rfl, head, by simpa using tail⟩
      · rintro ((arrived | ⟨arrived, tail⟩) | ⟨here, left, right, none, head, tail⟩)
        · exact .inl arrived
        · exact .inr ⟨.inl arrived, tail⟩
        · obtain ⟨rfl, rfl⟩ := List.append_eq_nil_iff.1 none.symm
          exact .inr ⟨.inr ⟨here, head⟩, by simpa using tail⟩
  | either left right leftIH rightIH =>
      cases pattern <;> simp only [Tracks] at tracks
      rw [Progress.leaves, Bool.or_eq_true, leftIH tracks.1, rightIH tracks.2, arrived_either_iff,
        spans_either_iff]
      constructor
      · rintro ((arrived | ⟨here, spans⟩) | (arrived | ⟨here, spans⟩))
        · exact .inl (.inl arrived)
        · exact .inr ⟨here, .inl spans⟩
        · exact .inl (.inr arrived)
        · exact .inr ⟨here, .inr spans⟩
      · rintro ((arrived | arrived) | ⟨here, spans | spans⟩)
        · exact .inl (.inl arrived)
        · exact .inr (.inl arrived)
        · exact .inl (.inr ⟨here, spans⟩)
        · exact .inr (.inr ⟨here, spans⟩)
  | double left right leftIH rightIH =>
      cases pattern <;> simp only [Tracks] at tracks
      rw [Progress.leaves, rightIH tracks.2, leftIH tracks.1, arrived_double_iff,
        spans_double_nil_iff]
      constructor
      · rintro (arrived | ⟨arrived | ⟨here, _⟩, spans⟩)
        · exact .inl (.inl arrived)
        · exact .inl (.inr ⟨arrived, spans⟩)
        · exact .inr ⟨here, spans⟩
      · rintro ((arrived | ⟨arrived, spans⟩) | ⟨here, spans⟩)
        · exact .inl arrived
        · exact .inr ⟨.inl arrived, spans⟩
        · exact .inr ⟨.inr ⟨here, spans⟩, spans⟩
  | twin half ih =>
      cases pattern <;> simp only [Tracks] at tracks
      have first : half.leaves before.getLast? after.head? false = true ↔ _ := ih tracks.1
      have second : half.leaves before.getLast? after.head? false = true ↔ _ := ih tracks.2
      simp only [Bool.false_eq_true, false_and, or_false] at first second
      rw [Progress.leaves, ih tracks.1, arrived_double_iff, spans_double_nil_iff, ← first, ← second]
      constructor
      · rintro (arrived | fresh)
        · exact .inl (.inl arrived)
        · exact .inr fresh
      · rintro ((arrived | ⟨arrived, _⟩) | fresh)
        · exact .inl arrived
        · exact .inl arrived
        · exact .inr fresh
  | plus inner ih =>
      cases pattern <;> simp only [Tracks] at tracks
      rw [Progress.leaves, ih tracks, arrived_plus_iff, spans_plus_nil_iff]

namespace Progress

/-- An attempt at the end of the pattern is there whether or not new ones begin. -/
theorem leaves_of_leaves_false {before after : Option Char} {progress : Progress}
    (fresh : Bool) (left : progress.leaves before after false = true) :
    progress.leaves before after fresh = true := by
  cases fresh with
  | false => exact left
  | true =>
      induction progress with
      | idle pattern => simp [leaves] at left
      | taken set => rfl
      | seq first second firstIH secondIH | double first second firstIH secondIH =>
          rw [leaves] at left ⊢
          cases head : first.leaves before after false with
          | true =>
              rw [firstIH head]
              rw [head] at left
              exact left
          | false =>
              rw [head] at left
              cases first.leaves before after true with
              | true => exact secondIH left
              | false => exact left
      | either one other oneIH otherIH =>
          rw [leaves, Bool.or_eq_true] at left ⊢
          exact left.imp oneIH otherIH
      | twin half ih | plus half ih => exact ih left

/-- Entering a pattern passes through it if it describes the empty stretch. -/
theorem enter_snd {before : Option Char} {c : Char} {pattern : Pattern} {fresh : Bool} :
    (enter before c pattern fresh).2 = (fresh && pattern.passes before (some c)) := by
  cases fresh with
  | false => cases pattern <;> rfl
  | true =>
      rw [Bool.true_and]
      induction pattern with
      | empty | look condition | one set => rfl
      | seq first second firstIH secondIH =>
          simp only [enter, passes, ← firstIH]
          cases (enter before c first true).2 with
          | true => simpa using secondIH
          | false => cases second <;> rfl
      | either left right leftIH rightIH => simp only [enter, passes, leftIH, rightIH]
      | double body ih | plus body ih => simpa only [enter, passes] using ih

/-- A step reports whether an attempt is at the end of the pattern. -/
theorem step_snd {before : Option Char} {c : Char} {progress : Progress} {fresh : Bool} :
    (progress.step before c fresh).2 = progress.leaves before (some c) fresh := by
  induction progress generalizing fresh with
  | idle pattern => exact enter_snd
  | taken set => rfl
  | seq first second firstIH secondIH | double first second firstIH secondIH =>
      simp only [step, leaves, firstIH, secondIH]
  | either left right leftIH rightIH => simp only [step, leaves, leftIH, rightIH]
  | twin half ih => simp only [step, leaves, ih]
  | plus body ih =>
      simp only [step, leaves, ih]
      cases fresh with
      | true => rfl
      | false =>
          cases left : body.leaves before (some c) false with
          | true => simpa using leaves_of_leaves_false true left
          | false => simpa using left

end Progress

/-- Entering a pattern that no attempt has touched keeps the marks right. -/
theorem Untouched.enter {before after : List Char} {c : Char} {pattern : Pattern}
    {starts : Places} {fresh : Bool}
    (untouched : Untouched before (c :: after) pattern starts)
    (began : fresh = true ↔ starts before (c :: after)) :
    Tracks (before ++ [c]) after pattern starts
      (Progress.enter before.getLast? c pattern fresh).1 := by
  cases fresh with
  | false =>
      have next := untouched.next (mt began.2 Bool.false_ne_true)
      cases pattern <;> exact tracks_idle_iff.2 ⟨rfl, next⟩
  | true =>
      replace began := began.1 rfl
      induction pattern generalizing starts with
      | empty => exact ⟨rfl, trivial⟩
      | look condition => exact ⟨rfl, trivial⟩
      | one set =>
          refine tracks_mark ⟨fun member => ⟨before, c, rfl, began, member⟩, ?_⟩
          rintro ⟨front, last, same, _, member⟩
          obtain ⟨rfl, tail⟩ := List.append_inj' same rfl
          cases tail
          exact member
      | seq first second firstIH secondIH =>
          refine Tracks.followedBy (firstIH untouched.1 began) ?_
          rw [Progress.enter_snd, Bool.true_and]
          have passes : first.passes before.getLast? (some c) = true ↔
              first.Spans before [] (c :: after) := by
            rw [← passes_iff, List.head?_cons]
          cases through : first.passes before.getLast? (some c) with
          | true =>
              exact secondIH untouched.2 (reached_iff.2 (.inr ⟨began, passes.1 through⟩))
          | false =>
              have next : Untouched (before ++ [c]) after second (Reached first starts) := by
                refine untouched.2.next ?_
                rw [reached_iff]
                rintro (arrived | ⟨_, spans⟩)
                · exact untouched.1.not_arrived arrived
                · exact Bool.false_ne_true (through.symm.trans (passes.2 spans))
              cases second <;> exact ⟨rfl, next⟩
      | either left right leftIH rightIH =>
          exact Tracks.orElse (leftIH untouched.1 began) (rightIH untouched.2 began)
      | double body ih =>
          have head := ih untouched.1 began
          simp only [Progress.enter, Progress.enter_snd, Bool.true_and]
          have passes : body.passes before.getLast? (some c) = true ↔
              body.Spans before [] (c :: after) := by
            rw [← passes_iff, List.head?_cons]
          split
          · rename_i through
            exact head.both (ih untouched.2 (reached_iff.2 (.inr ⟨began, passes.1 through⟩)))
          · rename_i stopped
            refine head.doubled (tracks_idle_iff.2 ⟨rfl, untouched.2.next ?_⟩)
            rw [reached_iff]
            rintro (arrived | ⟨_, spans⟩)
            · exact untouched.1.not_arrived arrived
            · exact stopped (passes.2 spans)
      | plus body ih => exact Tracks.again (ih untouched (.inl began))

/-- Reading a character keeps the marks right. -/
theorem Tracks.step {before after : List Char} {c : Char} {pattern : Pattern}
    {starts : Places} {progress : Progress} {fresh : Bool}
    (tracks : Tracks before (c :: after) pattern starts progress)
    (began : fresh = true ↔ starts before (c :: after)) :
    Tracks (before ++ [c]) after pattern starts
      (progress.step before.getLast? c fresh).1 := by
  induction progress generalizing pattern starts fresh with
  | idle other =>
      obtain ⟨rfl, untouched⟩ := tracks_idle_iff.1 tracks
      exact untouched.enter began
  | taken other =>
      cases pattern <;> simp only [Tracks] at tracks
      obtain ⟨rfl, _⟩ := tracks
      refine tracks_mark ?_
      rw [Bool.and_eq_true, began]
      constructor
      · rintro ⟨here, member⟩
        exact ⟨before, c, rfl, here, member⟩
      · rintro ⟨front, last, same, here, member⟩
        obtain ⟨rfl, tail⟩ := List.append_inj' same rfl
        cases tail
        exact ⟨here, member⟩
  | seq left right leftIH rightIH =>
      cases pattern <;> simp only [Tracks] at tracks
      refine Tracks.followedBy (leftIH tracks.1 began) (rightIH tracks.2 ?_)
      have leaves : left.leaves before.getLast? (some c) fresh = true ↔ _ := tracks.1.leaves_iff
      rw [Progress.step_snd, leaves, began, reached_iff]
  | either left right leftIH rightIH =>
      cases pattern <;> simp only [Tracks] at tracks
      exact Tracks.orElse (leftIH tracks.1 began) (rightIH tracks.2 began)
  | double left right leftIH rightIH =>
      cases pattern <;> simp only [Tracks] at tracks
      refine Tracks.doubled (leftIH tracks.1 began) (rightIH tracks.2 ?_)
      have leaves : left.leaves before.getLast? (some c) fresh = true ↔ _ := tracks.1.leaves_iff
      rw [Progress.step_snd, leaves, began, reached_iff]
  | twin half ih =>
      cases pattern <;> simp only [Tracks] at tracks
      have leaves : half.leaves before.getLast? (some c) fresh = true ↔ _ := tracks.1.leaves_iff
      rw [began, ← reached_iff] at leaves
      simp only [Progress.step, Progress.step_snd]
      split
      · rename_i same
        exact Tracks.both (ih tracks.1 began) (ih tracks.2 (by rw [← same, leaves]))
      · exact Tracks.doubled (ih tracks.1 began) (ih tracks.2 leaves)
  | plus inner ih =>
      cases pattern <;> simp only [Tracks] at tracks
      refine Tracks.again (ih tracks ?_)
      have leaves : inner.leaves before.getLast? (some c) false = true ↔ _ := tracks.leaves_iff
      rw [Bool.or_eq_true, leaves, began, resumed_iff]
      simp

/-- The search succeeds exactly if some attempt arrives at this place or a later one. -/
theorem Tracks.finds_iff {before after : List Char} {pattern : Pattern} {progress : Progress}
    (tracks : Tracks before after pattern (fun _ _ => True) progress) :
    progress.finds before.getLast? after = true ↔
      ∃ skipped rest, after = skipped ++ rest ∧
        Reached pattern (fun _ _ => True) (before ++ skipped) rest := by
  have reached : progress.leaves before.getLast? after.head? true = true ↔
      Reached pattern (fun _ _ => True) before after := by
    rw [tracks.leaves_iff, reached_iff]
    simp
  induction after generalizing before progress with
  | nil =>
      rw [Progress.finds]
      rw [List.head?_nil] at reached
      rw [reached]
      constructor
      · exact fun here => ⟨[], [], rfl, by simpa using here⟩
      · rintro ⟨skipped, rest, none, here⟩
        obtain ⟨rfl, rfl⟩ := List.append_eq_nil_iff.1 none.symm
        simpa using here
  | cons c after ih =>
      have next : Tracks (before ++ [c]) after pattern (fun _ _ => True)
          (progress.step before.getLast? c true).1 := tracks.step (by simp)
      have later := ih next (by rw [next.leaves_iff, reached_iff]; simp)
      rw [List.getLast?_concat] at later
      rw [List.head?_cons] at reached
      rw [Progress.finds, Bool.or_eq_true, Progress.step_snd]
      refine (or_congr reached later).trans ?_
      constructor
      · rintro (here | ⟨skipped, rest, rfl, there⟩)
        · exact ⟨[], c :: after, rfl, by simpa using here⟩
        · exact ⟨c :: skipped, rest, rfl, by simpa using there⟩
      · rintro ⟨skipped, rest, split, there⟩
        cases skipped with
        | nil =>
            subst split
            exact .inl (by simpa using there)
        | cons first skipped =>
            cases split
            exact .inr ⟨skipped, rest, rfl, by simpa using there⟩

/-- The search finds a pattern in a text exactly if the pattern occurs in it. -/
theorem occursIn_iff {pattern : Pattern} {text : List Char} :
    pattern.occursIn text = true ↔ pattern.OccursIn text := by
  have tracks : Tracks [] text pattern (fun _ _ => True) (.idle pattern) :=
    tracks_idle_iff.2 ⟨rfl, untouched_start _ _ _⟩
  have found := tracks.finds_iff
  rw [List.getLast?_nil] at found
  rw [occursIn, found]
  constructor
  · rintro ⟨skipped, rest, rfl, front, taken, split, _, spans⟩
    rw [List.nil_append] at split
    exact ⟨front, taken, rest, by rw [split], spans⟩
  · rintro ⟨front, taken, rest, rfl, spans⟩
    exact ⟨front ++ taken, rest, rfl, front, taken, rfl, trivial, spans⟩

end ContentBlocking.Pattern
