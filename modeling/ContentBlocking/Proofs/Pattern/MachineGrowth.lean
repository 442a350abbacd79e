import Mathlib.Algebra.BigOperators.Group.List.Basic
import Mathlib.Algebra.GroupWithZero.Nat
import ContentBlocking.Proofs.Pattern.OutlineBound

/-!
# What machines take at least

Every character of an outline needs a state in a machine, whatever is remembered and in whichever
direction the machine reads. What depends on the states that are there already is left out if they
are too many, so a growth may also add less because the machine is too large. A machine that is too
large stays so, because no growth takes states away.
-/

namespace ContentBlocking.Pattern

open ContentBlocking.Text

/-- Whatever machine it is added to, the growth takes so many bytes or leaves a machine that is too
large. -/
def Growth.AddsAtLeast (growth : Growth) (bytes : Nat) : Prop :=
  ∀ machine, machine.size + bytes ≤ (growth.applyTo machine).size ∨
    (growth.applyTo machine).isTooLarge = true

theorem Machine.isTooLarge_iff {machine : Machine} :
    machine.isTooLarge = true ↔ sizeLimit < machine.size := by
  rw [isTooLarge, decide_eq_true_eq]

/-! ## Growths in turn -/

namespace Growth

variable {growth first second : Growth} {bytes firstBytes secondBytes : Nat}

theorem applyTo_append {machine : Machine} (roomLeft : ¬ machine.isTooLarge = true) :
    (first.append second).applyTo machine = second.applyTo (first.applyTo machine) := by
  cases first with
  | fixed part =>
      cases second with
      | fixed other => simp only [append, applyTo, Machine.append, Nat.add_assoc]
      | varying grow => exact if_neg roomLeft
  | varying grow => exact if_neg roomLeft

theorem isTooLarge_applyTo_varying {machine : Machine} (grow : Machine → Machine)
    (tooLarge : machine.isTooLarge = true) :
    ((varying grow).applyTo machine).isTooLarge = true := by
  rw [applyTo, if_pos tooLarge]
  exact tooLarge

theorem isTooLarge_applyTo_append {machine : Machine} (tooLarge : machine.isTooLarge = true) :
    ((first.append second).applyTo machine).isTooLarge = true := by
  cases first with
  | fixed part =>
      cases second with
      | fixed other =>
          rw [Machine.isTooLarge_iff] at tooLarge
          rw [append, applyTo, Machine.isTooLarge_iff, Machine.size_append]
          omega
      | varying grow => exact isTooLarge_applyTo_varying _ tooLarge
  | varying grow => exact isTooLarge_applyTo_varying _ tooLarge

theorem addsAtLeast_fixed (part : Machine) : (fixed part).AddsAtLeast part.size := by
  intro machine
  left
  exact Nat.le_of_eq (Machine.size_append machine part).symm

theorem AddsAtLeast.weaken {fewer : Nat} (bound : growth.AddsAtLeast bytes) (enough : fewer ≤ bytes) :
    growth.AddsAtLeast fewer := by
  intro machine
  rcases bound machine with grown | tooLarge
  · left
    omega
  · right
    exact tooLarge

theorem addsAtLeast_varying {grow : Machine → Machine}
    (bounded : ∀ machine, machine.size + bytes ≤ (grow machine).size ∨
      (grow machine).isTooLarge = true) :
    (varying grow).AddsAtLeast bytes := by
  intro machine
  rw [applyTo]
  split
  · right
    assumption
  · exact bounded machine

theorem AddsAtLeast.append (firstBound : first.AddsAtLeast firstBytes)
    (secondBound : second.AddsAtLeast secondBytes) :
    (first.append second).AddsAtLeast (firstBytes + secondBytes) := by
  intro machine
  by_cases tooLarge : machine.isTooLarge = true
  · right
    exact isTooLarge_applyTo_append tooLarge
  · -- What is too large after the first growth is too large after the second one, whatever that adds.
    have firstStep := firstBound machine
    have secondStep := secondBound (first.applyTo machine)
    rw [applyTo_append tooLarge]
    simp only [Machine.isTooLarge_iff] at firstStep secondStep ⊢
    omega

/-- Growths in turn take no less than their bounds together. -/
theorem addsAtLeast_inTurn {parts : List Growth} {bounds : List Nat}
    (partBounds : List.Forall₂ AddsAtLeast parts bounds) :
    (inTurn parts).AddsAtLeast bounds.sum := by
  have kept : ∀ {start : Growth} {startBytes : Nat}, start.AddsAtLeast startBytes →
      (parts.foldl Growth.append start).AddsAtLeast (startBytes + bounds.sum) := by
    induction partBounds with
    | nil => exact fun startBound => startBound
    | cons partBound _ inductionHypothesis =>
        intro start startBytes startBound
        rw [List.sum_cons, ← Nat.add_assoc]
        exact inductionHypothesis (startBound.append partBound)
  have whole := kept (addsAtLeast_fixed .empty)
  rwa [show Machine.empty.size = 0 from rfl, Nat.zero_add] at whole

theorem grows_fixed (part : Machine) : (fixed part).AddsAtLeast 0 :=
  (addsAtLeast_fixed part).weaken (Nat.zero_le part.size)

theorem grows_copies (grows : growth.AddsAtLeast 0) (count : Nat) :
    (growth.copies count).AddsAtLeast 0 := by
  cases growth with
  | fixed part => exact grows_fixed (part.copies count)
  | varying grow =>
      apply addsAtLeast_varying
      induction count with
      | zero =>
          intro machine
          left
          exact Nat.le_refl machine.size
      | succ count inductionHypothesis =>
          -- Copies are left out only once there is no room left.
          intro machine
          rw [repeatOn]
          split
          · right
            assumption
          · rename_i roomLeft
            have step := grows machine
            rw [applyTo, if_neg roomLeft] at step
            have later := inductionHypothesis (grow machine)
            simp only [Machine.isTooLarge_iff] at step later ⊢
            omega

/-- A property of growths that is kept when they are put together. -/
structure IsClosed (property : Growth → Prop) : Prop where
  fixed : ∀ part, property (.fixed part)
  append : ∀ {first second}, property first → property second → property (first.append second)
  copies : ∀ {growth}, property growth → ∀ count, property (growth.copies count)

theorem isClosed_grows : IsClosed fun growth => growth.AddsAtLeast 0 :=
  ⟨grows_fixed, AddsAtLeast.append, grows_copies⟩

namespace IsClosed

variable {property : Growth → Prop} (closed : IsClosed property)

include closed

theorem inTurn {parts : List Growth} (each : ∀ part ∈ parts, property part) :
    property (inTurn parts) := by
  refine List.foldlRecOn (motive := property) parts Growth.append (closed.fixed .empty) ?_
  intro start holds part member
  exact closed.append holds (each part member)

theorem repetitionGrowth {body : Growth} (holds : property body) (consumes : Bool)
    (counts : Counts) :
    property (repetitionGrowth body consumes counts) := by
  have fork : property (Growth.fork 2) := closed.fixed _
  have state : property (Growth.plain 1) := closed.fixed _
  have copies := fun count => closed.copies holds count
  have further := fun count => closed.copies (closed.append fork holds) count
  unfold Pattern.repetitionGrowth
  cases counts.most with
  | none =>
      simp only
      split
      · split
        · exact closed.inTurn (by simp [fork, holds])
        · exact closed.inTurn (by simp [fork, holds, state])
      · exact closed.inTurn (by simp [fork, copies])
  | some most =>
      simp only
      split
      · exact closed.inTurn (by simp [fork, holds, state])
      · split
        · exact copies most
        · refine closed.inTurn ?_
          intro part member
          simp only [List.mem_cons, List.not_mem_nil, or_false] at member
          rcases member with rfl | rfl | rfl
          · split
            · exact state
            · exact copies counts.least
          · exact state
          · exact further (most - counts.least)

end IsClosed

end Growth

/-! ## Sets of characters -/

theorem SharingMachine.le_size_state (sharing : SharingMachine) (links : Nat)
    (purpose : List Nat) :
    sharing.machine.size ≤ (sharing.state links purpose).2.machine.size := by
  unfold SharingMachine.state
  split
  · exact Nat.le_refl sharing.machine.size
  · change sharing.machine.size ≤ (sharing.machine.add links).size
    rw [Machine.size_add]
    omega

theorem le_size_close (target : Nat) (states : List OpenState) (sharing : SharingMachine) :
    sharing.machine.size ≤ (close target states sharing).2.machine.size := by
  induction states with
  | nil => exact Nat.le_refl sharing.machine.size
  | cons state inner inductionHypothesis =>
      rw [close]
      exact Nat.le_trans inductionHypothesis (SharingMachine.le_size_state _ _ _)

theorem le_size_addStretch (target : Nat) (stretch : ByteStretch) (states : List OpenState)
    (sharing : SharingMachine) :
    sharing.machine.size ≤ (addStretch target stretch states sharing).2.machine.size := by
  induction stretch generalizing states with
  | nil => exact Nat.le_refl sharing.machine.size
  | cons range rest inductionHypothesis =>
      cases states with
      | nil => exact Nat.le_refl sharing.machine.size
      | cons state inner =>
          rw [addStretch]
          split
          · exact inductionHypothesis inner
          · exact le_size_close target inner sharing

theorem le_size_growShared (stretches : List ByteStretch) (machine : Machine) :
    machine.size + 32 ≤ (growShared stretches machine).size := by
  unfold growShared
  refine Nat.le_trans ?_ (le_size_close _ _ _)
  refine List.foldlRecOn (motive := fun reached : List OpenState × SharingMachine =>
    machine.size + 32 ≤ reached.2.machine.size) stretches _ ?_ ?_
  · exact Nat.le_of_eq (Machine.size_add machine 0).symm
  · intro reached kept stretch _
    exact Nat.le_trans kept (le_size_addStretch _ stretch reached.1 reached.2)

theorem le_size_addReversed (target : Nat) (sharing : SharingMachine) (stretch : ByteStretch) :
    sharing.machine.size ≤ (addReversed target sharing stretch).machine.size := by
  unfold addReversed
  refine List.foldlRecOn (motive := fun reached : Nat × SharingMachine =>
    sharing.machine.size ≤ reached.2.machine.size) stretch _ ?_ ?_
  · exact Nat.le_refl sharing.machine.size
  · intro reached kept range _
    exact Nat.le_trans kept (reached.2.le_size_state 0 [reached.1, range.1, range.2])

theorem le_size_growReversed (stretches : List ByteStretch) (machine : Machine) :
    machine.size + 32 ≤ (growReversed stretches machine).size := by
  unfold growReversed
  refine List.foldlRecOn (motive := fun reached : SharingMachine =>
    machine.size + 32 ≤ reached.machine.size) stretches _ ?_ ?_
  · simp only [Machine.size_add]
    omega
  · intro reached kept stretch _
    exact Nat.le_trans kept (le_size_addReversed _ reached stretch)

/-- One character of a set takes at least one state in both directions. -/
theorem addsAtLeast_setGrowth (direction : Direction) (set : CharSet) :
    (setGrowth direction set).AddsAtLeast 32 := by
  unfold setGrowth
  split
  · have both := (Growth.addsAtLeast_fixed ⟨1, 0⟩).append
      (Growth.addsAtLeast_fixed ⟨1, 8 * set.ranges.length⟩)
    exact both.weaken (by simp only [Machine.size]; omega)
  · apply Growth.addsAtLeast_varying
    intro machine
    left
    cases direction with
    | forward => exact le_size_growShared (byteStretches set) machine
    | backward => exact le_size_growReversed (byteStretches set) machine

/-! ## Choices -/

theorem grows_remainders (depth : Nat) (texts : List (List Nat)) :
    (remainders depth texts).AddsAtLeast 0 := by
  induction depth generalizing texts with
  | zero => exact Growth.grows_fixed .empty
  | succ depth inductionHypothesis =>
      rw [remainders]
      split
      · exact Growth.grows_fixed .empty
      · apply Growth.isClosed_grows.inTurn
        intro part member
        simp only [List.mem_cons, List.mem_append, List.mem_map] at member
        rcases member with (rfl | ⟨groups, _, rfl⟩) | ⟨tail, _, rfl⟩
        · exact Growth.grows_fixed _
        · unfold branches
          split
          · exact Growth.grows_fixed .empty
          · split
            · exact Growth.grows_fixed _
            · exact Growth.grows_fixed _
        · exact inductionHypothesis tail

theorem grows_textsGrowth (texts : List (List Nat)) : (textsGrowth texts).AddsAtLeast 0 :=
  (Growth.grows_fixed ⟨1, 0⟩).append (grows_remainders _ texts)

theorem grows_choiceGrowth {alternatives : List Growth}
    (grow : ∀ alternative ∈ alternatives, alternative.AddsAtLeast 0) :
    (choiceGrowth alternatives).AddsAtLeast 0 := by
  apply Growth.isClosed_grows.inTurn
  intro part member
  simp only [List.mem_append, List.mem_cons, List.not_mem_nil, or_false] at member
  rcases member with (early | rfl | rfl) | late
  · exact grow part (List.mem_of_mem_take early)
  · exact Growth.grows_fixed _
  · exact Growth.grows_fixed _
  · exact grow part (List.mem_of_mem_drop late)

/-! ## Outlines -/

namespace Outline

mutual

/-- A bound for the bytes that an outline adds to a machine at least: so many for each byte of a
text and for each set, where what is optional or repeated is not counted. -/
def leastBytes : Outline → Nat
  | .literal text => 32 * (byteForms text).length
  | .chars _ _ => 32
  | .seq parts => (eachLeastBytes parts).sum
  | .group body => body.leastBytes
  | .empty | .look _ | .choice _ | .repetition _ _ => 0

def eachLeastBytes : List Outline → List Nat
  | [] => []
  | first :: rest => first.leastBytes :: eachLeastBytes rest

end

theorem growths_eq_map (direction : Direction) (parts : List Outline) :
    growths direction parts = parts.map (growth direction) := by
  induction parts with
  | nil => rfl
  | cons first rest inductionHypothesis => rw [growths, inductionHypothesis, List.map_cons]

theorem eachLeastBytes_eq_map (parts : List Outline) :
    eachLeastBytes parts = parts.map leastBytes := by
  induction parts with
  | nil => rfl
  | cons first rest inductionHypothesis => rw [eachLeastBytes, inductionHypothesis, List.map_cons]

theorem addsAtLeast_seq {direction : Direction} {parts : List Outline}
    (bounds : ∀ part ∈ parts, (part.growth direction).AddsAtLeast part.leastBytes) :
    ((seq parts).growth direction).AddsAtLeast (seq parts).leastBytes := by
  have partBounds : List.Forall₂ Growth.AddsAtLeast (growths direction parts)
      (eachLeastBytes parts) := by
    rw [growths_eq_map, eachLeastBytes_eq_map, List.forall₂_map_left_iff,
      List.forall₂_map_right_iff, List.forall₂_same]
    exact bounds
  rw [growth, leastBytes]
  split
  · exact Growth.addsAtLeast_inTurn partBounds
  · rw [← List.sum_reverse]
    exact Growth.addsAtLeast_inTurn (List.forall₂_reverse_iff.mpr partBounds)

theorem grows_choice {direction : Direction} {alternatives : List Outline}
    (bounds : ∀ alternative ∈ alternatives,
      (alternative.growth direction).AddsAtLeast alternative.leastBytes) :
    ((choice alternatives).growth direction).AddsAtLeast 0 := by
  rw [growth]
  split
  · exact grows_textsGrowth _
  · apply grows_choiceGrowth
    intro part member
    rw [growths_eq_map] at member
    obtain ⟨alternative, isAlternative, rfl⟩ := List.mem_map.mp member
    exact (bounds alternative isAlternative).weaken (Nat.zero_le _)

theorem addsAtLeast_group {outline : Outline} {direction : Direction} {bytes : Nat}
    (bound : (outline.growth direction).AddsAtLeast bytes) :
    ((group outline).growth direction).AddsAtLeast bytes := by
  have state := Growth.grows_fixed ⟨1, 0⟩
  rw [growth]
  split
  · have noted := Growth.addsAtLeast_inTurn (.cons state (.cons bound (.cons state .nil)))
    exact noted.weaken (by simp)
  · exact bound

mutual

/-- An outline takes at least as many bytes as its bound says, by induction over the outline. -/
theorem addsAtLeast_leastBytes (direction : Direction) :
    ∀ outline : Outline, (outline.growth direction).AddsAtLeast outline.leastBytes
  | .empty | .look _ => Growth.grows_fixed ⟨1, 0⟩
  | .literal text => (Growth.addsAtLeast_fixed ⟨(byteForms text).length, 0⟩).weaken (Nat.le_refl _)
  | .chars _ set => addsAtLeast_setGrowth direction set
  | .seq parts => addsAtLeast_seq (addsAtLeast_of_mem direction parts)
  | .choice alternatives => grows_choice (addsAtLeast_of_mem direction alternatives)
  | .group body => addsAtLeast_group (addsAtLeast_leastBytes direction body)
  | .repetition body counts =>
      Growth.isClosed_grows.repetitionGrowth
        ((addsAtLeast_leastBytes direction body).weaken (Nat.zero_le _)) _ counts

theorem addsAtLeast_of_mem (direction : Direction) :
    ∀ parts : List Outline, ∀ part ∈ parts,
      (part.growth direction).AddsAtLeast part.leastBytes
  | [], _, member => absurd member List.not_mem_nil
  | first :: rest, part, member => by
      rcases List.mem_cons.mp member with same | later
      · rw [same]
        exact addsAtLeast_leastBytes direction first
      · exact addsAtLeast_of_mem direction rest part later

end

/-- If the least bytes of an outline reach the limit, its machines are too large. -/
theorem isTooLarge_machine {outline : Outline} (large : Machine.sizeLimit ≤ outline.leastBytes)
    (direction : Direction) :
    (outline.machine direction).isTooLarge = true := by
  have skips : (if outline.isBound direction then Growth.plain 1
      else .inTurn [.fork 2, .plain 1, .arrows 1]).AddsAtLeast 0 := by
    split
    · exact Growth.grows_fixed ⟨1, 0⟩
    · exact Growth.grows_fixed ⟨3, 16⟩
  have found := Growth.addsAtLeast_fixed ⟨1, 0⟩
  have body := addsAtLeast_group (addsAtLeast_leastBytes direction outline)
  have whole := Growth.addsAtLeast_inTurn (.cons skips (.cons body (.cons found .nil)))
  rcases whole .empty with grown | tooLarge
  · have parts : ([0, outline.leastBytes, Machine.size ⟨1, 0⟩] : List Nat).sum =
        outline.leastBytes + 32 := by
      simp [Machine.size]
    rw [parts] at grown
    rw [Machine.isTooLarge_iff]
    exact Nat.lt_of_lt_of_le (by omega) grown
  · exact tooLarge

end Outline

end ContentBlocking.Pattern
