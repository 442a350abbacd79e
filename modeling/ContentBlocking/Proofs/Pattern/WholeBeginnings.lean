import ContentBlocking.Proofs.Pattern.CharBytes
import ContentBlocking.Proofs.Pattern.MachineGrowth

/-!
# Outlines that are too long to be found by texts

A text with which an outline begins is all that is needed only if it has a byte for each byte that
the outline describes at least. Texts are cut off at a hundred bytes, and what is cut off is not all
that is needed. So a search for texts never decides about an outline that describes more than that.
-/

namespace ContentBlocking.Pattern

open ContentBlocking.Text

/-! ## Joining and cutting texts -/

namespace Beginning

variable {beginning : Beginning} {beginnings : List Beginning} {count : Nat}

theorem keep_eq_of_whole (whole : (keep count beginning).whole = true) :
    keep count beginning = beginning ∧ beginning.bytes.length ≤ count := by
  unfold keep at whole ⊢
  split
  · rename_i short
    exact ⟨rfl, short⟩
  · rename_i long
    rw [if_neg long] at whole
    cases whole

theorem exists_of_mem_joinNeighbours (member : beginning ∈ joinNeighbours beginnings) :
    ∃ original ∈ beginnings, original.bytes = beginning.bytes ∧
      (beginning.whole = true → original.whole = true) := by
  induction beginnings generalizing beginning with
  | nil => cases member
  | cons first rest inductionHypothesis =>
      have same : ∃ original ∈ first :: rest, original.bytes = first.bytes ∧
          (first.whole = true → original.whole = true) :=
        ⟨first, List.mem_cons_self, rfl, id⟩
      have later : ∀ other ∈ joinNeighbours rest, ∃ original ∈ first :: rest,
          original.bytes = other.bytes ∧ (other.whole = true → original.whole = true) := by
        intro other inRest
        obtain ⟨original, isMember, bytes, whole⟩ := inductionHypothesis inRest
        exact ⟨original, List.mem_cons_of_mem first isMember, bytes, whole⟩
      rw [joinNeighbours] at member
      split at member
      · rename_i next others joined
        rw [joined] at later
        split at member
        · cases List.mem_cons.mp member with
          | inl isFirst =>
              subst isFirst
              refine ⟨first, List.mem_cons_self, rfl, ?_⟩
              intro both
              exact (Bool.and_eq_true_iff.mp both).1
          | inr inOthers => exact later beginning (List.mem_cons_of_mem next inOthers)
        · cases List.mem_cons.mp member with
          | inl isFirst =>
              rw [isFirst]
              exact same
          | inr inRest => exact later beginning inRest
      · rw [List.mem_singleton.mp member]
        exact same

theorem mem_of_mem_dropLonger {kept : List (List Nat)}
    (member : beginning ∈ dropLonger kept beginnings) :
    beginning ∈ beginnings := by
  induction beginnings generalizing kept with
  | nil => exact member
  | cons first rest inductionHypothesis =>
      rw [dropLonger] at member
      split at member
      · exact List.mem_cons_of_mem first (inductionHypothesis member)
      · cases List.mem_cons.mp member with
        | inl isFirst => exact isFirst ▸ List.mem_cons_self
        | inr later => exact List.mem_cons_of_mem first (inductionHypothesis later)

/-- There are texts, and all of them need something else behind them. -/
def AreUnfinished (beginnings : List Beginning) : Prop :=
  beginnings ≠ [] ∧ ∀ beginning ∈ beginnings, beginning.whole = false

namespace AreUnfinished

variable (unfinished : AreUnfinished beginnings)

include unfinished

theorem dropLonger : AreUnfinished (dropLonger [] beginnings) := by
  constructor
  · cases beginnings with
    | nil => exact absurd rfl unfinished.1
    | cons first rest => exact List.cons_ne_nil _ _
  · intro beginning member
    exact unfinished.2 beginning (mem_of_mem_dropLonger member)

theorem cut (count : Nat) : AreUnfinished (beginnings.map (keep count)) := by
  constructor
  · exact mt List.map_eq_nil_iff.mp unfinished.1
  · intro beginning member
    obtain ⟨original, isMember, same⟩ := List.mem_map.mp member
    rw [← same, ← Bool.not_eq_true]
    intro whole
    rw [(keep_eq_of_whole whole).1, unfinished.2 original isMember] at whole
    cases whole

theorem joinNeighbours : AreUnfinished (joinNeighbours beginnings) := by
  constructor
  · cases beginnings with
    | nil => exact absurd rfl unfinished.1
    | cons first rest =>
        rw [Beginning.joinNeighbours]
        split
        · split <;> exact List.cons_ne_nil _ _
        · exact List.cons_ne_nil _ _
  · intro beginning member
    obtain ⟨original, isMember, _, whole⟩ := exists_of_mem_joinNeighbours member
    rw [← Bool.not_eq_true]
    intro isWhole
    exact Bool.false_ne_true ((unfinished.2 original isMember).symm.trans (whole isWhole))

theorem all_whole_eq_false : beginnings.all whole = false := by
  cases beginnings with
  | nil => exact absurd rfl unfinished.1
  | cons first rest =>
      rw [List.all_cons, unfinished.2 first List.mem_cons_self, Bool.false_and]

end AreUnfinished

/-- Texts that all need something else behind them tell nothing. -/
theorem areEnough_eq_false (unfinished : ∀ beginning ∈ beginnings, beginning.whole = false) :
    areEnough beginnings = false := by
  by_cases empty : beginnings = []
  · subst empty
    rfl
  · have needed := AreUnfinished.dropLonger ⟨empty, unfinished⟩
    have joined := fun count => (needed.cut count).joinNeighbours.all_whole_eq_false
    unfold areEnough
    simp only [(needed.cut 1).all_whole_eq_false]
    split
    · rfl
    · split
      · rfl
      · split
        · rw [joined, Bool.false_and]
        · rw [needed.all_whole_eq_false, Bool.false_and]

/-- The texts that are all that is needed have the property. -/
def WholesHave (beginnings : List Beginning) (property : List Nat → Prop) : Prop :=
  ∀ beginning ∈ beginnings, beginning.whole = true → property beginning.bytes

namespace WholesHave

variable {others : List Beginning} {property other : List Nat → Prop}

theorem append (left : WholesHave beginnings property) (right : WholesHave others property) :
    WholesHave (beginnings ++ others) property := by
  intro beginning member
  cases List.mem_append.mp member with
  | inl inLeft => exact left beginning inLeft
  | inr inRight => exact right beginning inRight

theorem joinNeighbours (wholes : WholesHave beginnings property) :
    WholesHave (joinNeighbours beginnings) property := by
  intro beginning member isWhole
  obtain ⟨original, isMember, bytes, whole⟩ := exists_of_mem_joinNeighbours member
  rw [← bytes]
  exact wholes original isMember (whole isWhole)

theorem cut (wholes : WholesHave beginnings property) (count : Nat) :
    WholesHave (beginnings.map (keep count)) fun bytes => property bytes ∧ bytes.length ≤ count := by
  intro beginning member isWhole
  obtain ⟨original, isMember, kept⟩ := List.mem_map.mp member
  rw [← kept] at isWhole ⊢
  obtain ⟨same, short⟩ := keep_eq_of_whole isWhole
  rw [same] at isWhole ⊢
  exact ⟨wholes original isMember isWhole, short⟩

/-- What is all that is needed of one thing and then another one consists of both. -/
theorem flatMap_followedBy (left : WholesHave beginnings property)
    (right : WholesHave others other) :
    WholesHave (beginnings.flatMap (·.followedBy others)) fun bytes =>
      ∃ front back, bytes = front ++ back ∧ property front ∧ other back := by
  intro beginning member isWhole
  obtain ⟨first, isFirst, follows⟩ := List.mem_flatMap.mp member
  unfold followedBy at follows
  split at follows
  · rename_i firstWhole
    obtain ⟨next, isNext, both⟩ := List.mem_map.mp follows
    rw [← both] at isWhole ⊢
    exact ⟨first.bytes, next.bytes, rfl, left first isFirst firstWhole, right next isNext isWhole⟩
  · rename_i cutOff
    rw [List.mem_singleton.mp follows] at isWhole
    exact absurd isWhole cutOff

end WholesHave

end Beginning

/-! ## The beginnings of outlines -/

namespace Beginnings

variable {beginnings body left right : Beginnings} {bytes leftBytes rightBytes : Nat}

/-- A text that is all that is needed is not cut off and takes so many bytes of a machine at least.
-/
def TakeAtLeast (beginnings : Beginnings) (bytes : Nat) : Prop :=
  ∀ list ∈ beginnings, Beginning.WholesHave list fun text =>
    bytes ≤ 32 * text.length ∧ text.length ≤ lengthLimit

theorem TakeAtLeast.weaken {fewer : Nat} (bound : beginnings.TakeAtLeast bytes)
    (enough : fewer ≤ bytes) :
    beginnings.TakeAtLeast fewer := by
  intro list given beginning member whole
  have within := bound list given beginning member whole
  exact ⟨Nat.le_trans enough within.1, within.2⟩

theorem takeAtLeast_nothing : nothing.TakeAtLeast 0 := by
  intro list given beginning member _
  cases given
  rw [List.mem_singleton.mp member]
  exact ⟨Nat.zero_le _, Nat.zero_le _⟩

theorem takeAtLeast_unfinished (beginnings : Beginnings) (bytes : Nat) :
    beginnings.unfinished.TakeAtLeast bytes := by
  intro list given beginning member whole
  obtain ⟨original, _, same⟩ := Option.map_eq_some_iff.mp given
  rw [← same] at member
  obtain ⟨other, _, isUnfinished⟩ := List.mem_map.mp member
  rw [← isUnfinished] at whole
  cases whole

/-- A text that is listed as a whole takes a state for each of its bytes. -/
theorem takeAtLeast_ofText (text : List Char) :
    (ofText text).TakeAtLeast (32 * (byteForms text).length) := by
  intro list given beginning member whole
  cases given
  rw [List.mem_singleton.mp member] at whole ⊢
  have kept := Beginning.keep_eq_of_whole whole
  rw [kept.1]
  exact ⟨Nat.le_refl _, kept.2⟩

theorem takeAtLeast_ofSet (set : CharSet) : (ofSet set).TakeAtLeast 32 := by
  intro list given beginning member _
  simp only [ofSet, Option.mem_def, Option.ite_none_right_eq_some, Option.some.injEq] at given
  rw [← given.2] at member
  obtain ⟨c, _, same⟩ := List.mem_map.mp member
  have filled := List.length_pos_of_ne_nil (byteForm_ne_nil c)
  have few := length_byteForm_le c
  rw [← same]
  change 32 ≤ 32 * (byteForm c).length ∧ (byteForm c).length ≤ 100
  omega

theorem TakeAtLeast.followedBy (leftBound : left.TakeAtLeast leftBytes)
    (rightBound : right.TakeAtLeast rightBytes) :
    (left.followedBy right).TakeAtLeast (leftBytes + rightBytes) := by
  intro list given
  unfold Beginnings.followedBy at given
  split at given
  · cases given
  · rename_i lefts
    split at given
    · split at given
      · cases given
      · exact takeAtLeast_unfinished (some lefts) _ list given
    · rename_i rights filtered
      have isRight : right = some rights := (Option.filter_eq_some_iff.mp filtered).1
      cases given
      have both := (leftBound lefts rfl).flatMap_followedBy (rightBound rights isRight)
      intro beginning member whole
      obtain ⟨⟨front, back, split, frontBytes, backBytes⟩, short⟩ :=
        both.joinNeighbours.cut lengthLimit beginning member whole
      refine ⟨?_, short⟩
      rw [split, List.length_append]
      omega

theorem TakeAtLeast.extend (leftBound : left.TakeAtLeast leftBytes)
    (rightBound : right.TakeAtLeast rightBytes) :
    (left.extend right).TakeAtLeast (leftBytes + rightBytes) := by
  unfold Beginnings.extend
  split
  · exact leftBound.followedBy rightBound
  · rename_i noWhole
    intro list given beginning member whole
    rw [Option.mem_def.mp given, Option.getD_some] at noWhole
    exact absurd (List.any_eq_true.mpr ⟨beginning, member, whole⟩) noWhole

theorem TakeAtLeast.either (leftBound : left.TakeAtLeast 0) (rightBound : right.TakeAtLeast 0) :
    (left.either right).TakeAtLeast 0 := by
  have shortened : ∀ list : List Beginning, Beginning.WholesHave list (fun text =>
      0 ≤ 32 * text.length ∧ text.length ≤ lengthLimit) →
      Beginning.WholesHave (Beginning.joinNeighbours (list.map (.keep 4))) fun text =>
        0 ≤ 32 * text.length ∧ text.length ≤ lengthLimit := by
    intro list wholes
    apply Beginning.WholesHave.joinNeighbours
    intro beginning member whole
    exact (wholes.cut 4 beginning member whole).1
  intro list given
  unfold Beginnings.either at given
  split at given
  · rename_i lefts rights
    have inLefts := leftBound lefts rfl
    have inRights := rightBound rights rfl
    simp only [Option.mem_def, Option.ite_none_right_eq_some, Option.some.injEq] at given
    rw [← given.2]
    split
    · exact (inLefts.append inRights).joinNeighbours
    · exact ((shortened lefts inLefts).append (shortened rights inRights)).joinNeighbours
  · cases given

theorem TakeAtLeast.copies (bound : body.TakeAtLeast 0) (count : Nat) :
    (body.copies count).TakeAtLeast 0 := by
  have written : ∀ (times : Nat) (start : Beginnings), start.TakeAtLeast 0 →
      ((List.replicate times body).foldl Beginnings.extend start).TakeAtLeast 0 := by
    intro times
    induction times with
    | zero => exact fun start startBound => startBound
    | succ times inductionHypothesis =>
        intro start startBound
        exact inductionHypothesis (start.extend body) (startBound.extend bound)
  unfold Beginnings.copies
  simp only
  split
  · exact takeAtLeast_unfinished _ 0
  · exact written _ nothing takeAtLeast_nothing

theorem TakeAtLeast.ofRepetition (bound : body.TakeAtLeast 0) (counts : Counts) :
    (Beginnings.ofRepetition body counts).TakeAtLeast 0 := by
  have once : (if counts.most = some 1 then body else body.unfinished).TakeAtLeast 0 := by
    split
    · exact bound
    · exact takeAtLeast_unfinished body 0
  unfold Beginnings.ofRepetition
  simp only
  split
  · split
    · exact takeAtLeast_nothing.either once
    · exact once.either takeAtLeast_nothing
  · split
    · exact bound.copies counts.least
    · exact takeAtLeast_unfinished _ 0

end Beginnings

namespace Outline

mutual

/-- A text that is all that is needed for an outline takes at least the bytes of the outline. -/
theorem takeAtLeast_beginnings : ∀ outline : Outline,
    outline.beginnings.TakeAtLeast outline.leastBytes
  | .empty | .look _ => Beginnings.takeAtLeast_nothing
  | .literal text => Beginnings.takeAtLeast_ofText text
  | .chars _ set => Beginnings.takeAtLeast_ofSet set
  | .seq parts => by
      have whole := takeAtLeast_foldl_extend parts Beginnings.takeAtLeast_nothing
      rwa [Nat.zero_add] at whole
  | .choice alternatives => takeAtLeast_foldl_either alternatives (by
      intro list given beginning member
      cases given
      cases member)
  | .group body => takeAtLeast_beginnings body
  | .repetition body counts =>
      ((takeAtLeast_beginnings body).weaken (Nat.zero_le _)).ofRepetition counts

theorem takeAtLeast_foldl_extend : ∀ (parts : List Outline) {start : Beginnings} {bytes : Nat},
    start.TakeAtLeast bytes →
      ((eachBeginnings parts).foldl .extend start).TakeAtLeast (bytes + (eachLeastBytes parts).sum)
  | [], _, _, startBound => startBound
  | first :: rest, start, bytes, startBound => by
      have later := takeAtLeast_foldl_extend rest (startBound.extend (takeAtLeast_beginnings first))
      rwa [Nat.add_assoc] at later

theorem takeAtLeast_foldl_either : ∀ (alternatives : List Outline) {start : Beginnings},
    start.TakeAtLeast 0 → ((eachBeginnings alternatives).foldl .either start).TakeAtLeast 0
  | [], _, startBound => startBound
  | first :: rest, _, startBound =>
      takeAtLeast_foldl_either rest
        (startBound.either ((takeAtLeast_beginnings first).weaken (Nat.zero_le _)))

end

/-- No text is long enough to be all that is needed of a long outline. -/
theorem isFoundByTexts_eq_false {outline : Outline} (long : 3200 < outline.leastBytes) :
    outline.isFoundByTexts = false := by
  have none : ∀ beginning ∈ Beginning.joinNeighbours (outline.beginnings.getD []),
      beginning.whole = false := by
    intro beginning member
    rw [← Bool.not_eq_true]
    intro isWhole
    cases given : outline.beginnings with
    | none =>
        rw [given] at member
        cases member
    | some list =>
        rw [given] at member
        have wholes := (takeAtLeast_beginnings outline list given).joinNeighbours
        have within := wholes beginning member isWhole
        rw [Beginnings.lengthLimit] at within
        omega
  rw [isFoundByTexts, Beginning.areEnough_eq_false none, Bool.and_false]

end Outline

end ContentBlocking.Pattern
