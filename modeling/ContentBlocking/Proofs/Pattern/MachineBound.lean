import Mathlib.Data.List.Forall2
import ContentBlocking.Pattern.MachineSize

/-!
# Bounds for the sizes of machines

How many states a set of characters adds to a machine depends on which states are still remembered.
Whatever is remembered, no stretch of bytes adds more than a state for each of its bytes. The open
states of a machine that reads forward are counted in advance, so every step keeps the bound.
-/

namespace ContentBlocking.Pattern

open ContentBlocking.Text

/-- Whatever machine it is added to, the growth takes so many bytes at most. -/
def Growth.AddsAtMost (growth : Growth) (bytes : Nat) : Prop :=
  ∀ machine, (growth.applyTo machine).size ≤ machine.size + bytes

theorem Machine.size_add (machine : Machine) (links : Nat) :
    (machine.add links).size = machine.size + 32 + links := by
  rw [Machine.add, Machine.size_append]
  simp only [Machine.size]
  omega

/-! ## Growths in turn -/

namespace Growth

theorem addsAtMost_fixed (part : Machine) :
    (fixed part).AddsAtMost part.size := by
  intro machine
  exact Nat.le_of_eq (Machine.size_append machine part)

theorem addsAtMost_plain (states : Nat) :
    (plain states).AddsAtMost (32 * states) :=
  addsAtMost_fixed ⟨states, 0⟩

theorem addsAtMost_arrows (count : Nat) :
    (arrows count).AddsAtMost (32 + 8 * count) :=
  addsAtMost_fixed ⟨1, 8 * count⟩

theorem addsAtMost_fork (branches : Nat) :
    (fork branches).AddsAtMost (32 + 4 * branches) :=
  addsAtMost_fixed ⟨1, 4 * branches⟩

theorem AddsAtMost.weaken {growth : Growth} {bytes more : Nat}
    (bound : growth.AddsAtMost bytes) (enough : bytes ≤ more) :
    growth.AddsAtMost more := by
  intro machine
  have step := bound machine
  omega

theorem addsAtMost_varying {grow : Machine → Machine} {bytes : Nat}
    (bounded : ∀ machine, (grow machine).size ≤ machine.size + bytes) :
    (varying grow).AddsAtMost bytes := by
  intro machine
  rw [applyTo]
  split
  · exact Nat.le_add_right machine.size bytes
  · exact bounded machine

theorem AddsAtMost.append {first second : Growth} {firstBytes secondBytes : Nat}
    (firstBound : first.AddsAtMost firstBytes) (secondBound : second.AddsAtMost secondBytes) :
    (first.append second).AddsAtMost (firstBytes + secondBytes) := by
  have inTurn : ∀ machine, (second.applyTo (first.applyTo machine)).size ≤
      machine.size + (firstBytes + secondBytes) := by
    intro machine
    have firstStep := firstBound machine
    have secondStep := secondBound (first.applyTo machine)
    omega
  cases first with
  | fixed part =>
      cases second with
      | fixed other =>
          intro machine
          have both := inTurn machine
          change (machine.append (part.append other)).size ≤ _
          simp only [applyTo, Machine.size_append] at both ⊢
          omega
      | varying grow => exact addsAtMost_varying inTurn
  | varying grow => exact addsAtMost_varying inTurn

theorem AddsAtMost.foldl_append {start : Growth} {startBytes : Nat} {parts : List Growth}
    {bounds : List Nat} (startBound : start.AddsAtMost startBytes)
    (partBounds : List.Forall₂ AddsAtMost parts bounds) :
    (parts.foldl Growth.append start).AddsAtMost (bounds.foldl (· + ·) startBytes) := by
  induction partBounds generalizing start startBytes with
  | nil => exact startBound
  | cons partBound _ inductionHypothesis =>
      exact inductionHypothesis (startBound.append partBound)

/-- Growths in turn take no more than their bounds together. -/
theorem addsAtMost_inTurn {parts : List Growth} {bounds : List Nat}
    (partBounds : List.Forall₂ AddsAtMost parts bounds) :
    (inTurn parts).AddsAtMost (bounds.foldl (· + ·) 0) :=
  AddsAtMost.foldl_append (addsAtMost_fixed .empty) partBounds

end Growth

/-! ## Sets of characters -/

theorem SharingMachine.size_state_le (sharing : SharingMachine) (links : Nat)
    (purpose : List Nat) :
    (sharing.state links purpose).2.machine.size ≤ sharing.machine.size + 32 + links := by
  unfold SharingMachine.state
  split
  · change sharing.machine.size ≤ sharing.machine.size + 32 + links
    omega
  · exact Nat.le_of_eq (Machine.size_add sharing.machine links)

def openBytes : List OpenState → Nat
  | [] => 0
  | state :: inner => 40 + 8 * state.arrows.length + openBytes inner

theorem size_close_le (target : Nat) (states : List OpenState) (sharing : SharingMachine) :
    (close target states sharing).2.machine.size ≤
      sharing.machine.size + openBytes states := by
  induction states with
  | nil => exact Nat.le_refl sharing.machine.size
  | cons state inner inductionHypothesis =>
      rw [close, openBytes]
      generalize close target inner sharing = reached at inductionHypothesis ⊢
      obtain ⟨following, grown⟩ := reached
      have arrows : (state.settled following).length = state.arrows.length + 1 :=
        List.length_append
      change grown.machine.size ≤ _ at inductionHypothesis
      apply Nat.le_trans
        (grown.size_state_le (8 * (state.settled following).length) _)
      omega

theorem openBytes_fresh (stretch : ByteStretch) :
    openBytes (stretch.map fun range => ⟨[], range⟩) = 40 * stretch.length := by
  induction stretch with
  | nil => rfl
  | cons range rest inductionHypothesis =>
      rw [List.map_cons, openBytes, inductionHypothesis, List.length_cons, List.length_nil]
      omega

/-- Adding a stretch takes no more than a closed state for each of its bytes. -/
theorem size_addStretch_le (target : Nat) (stretch : ByteStretch) (states : List OpenState)
    (sharing : SharingMachine) :
    (addStretch target stretch states sharing).2.machine.size +
        openBytes (addStretch target stretch states sharing).1 ≤
      sharing.machine.size + openBytes states + 40 * stretch.length := by
  -- What the stretch shares with the open states stays open. Where it leaves them, the states
  -- behind are closed, which was counted when they were opened, and the rest is opened.
  induction stretch generalizing states with
  | nil => simp [addStretch]
  | cons range rest inductionHypothesis =>
      cases states with
      | nil =>
          simp only [addStretch, openBytes_fresh, openBytes]
          omega
      | cons state inner =>
          rw [addStretch]
          split
          · have added := inductionHypothesis inner
            simp only [openBytes, List.length_cons]
            omega
          · have closed := size_close_le target inner sharing
            simp only [openBytes, openBytes_fresh, OpenState.settled, List.length_append,
              List.length_cons, List.length_nil]
            omega

/-- A memory may hold any states, so what is bounded is the machine with its open states. -/
theorem size_foldl_addStretch_le (target : Nat) (stretches : List ByteStretch)
    (reached : List OpenState × SharingMachine) :
    let ended := stretches.foldl (fun (states, sharing) stretch =>
      addStretch target stretch states sharing) reached
    ended.2.machine.size + openBytes ended.1 ≤
      reached.2.machine.size + openBytes reached.1 + 40 * stretches.flatten.length := by
  induction stretches generalizing reached with
  | nil => exact Nat.le_refl _
  | cons stretch rest inductionHypothesis =>
      have step := size_addStretch_le target stretch reached.1 reached.2
      have later := inductionHypothesis (addStretch target stretch reached.1 reached.2)
      simp only [List.foldl_cons, List.flatten_cons, List.length_append] at later ⊢
      omega

/-- Stretches that are read from the front take at most one state with one arrow for each of their
ranges, and one more state. -/
theorem size_growShared_le (stretches : List ByteStretch) (machine : Machine) :
    (growShared stretches machine).size ≤
      machine.size + 32 + 40 * stretches.flatten.length := by
  have grown := size_foldl_addStretch_le machine.states stretches
    ([], ⟨machine.add 0, .ofPlaces 10000⟩)
  simp only [openBytes, Machine.size_add] at grown
  unfold growShared
  exact Nat.le_trans (size_close_le _ _ _) (by omega)

theorem size_foldl_state_le (stretch : ByteStretch) (reached : Nat × SharingMachine) :
    (stretch.foldl (fun (following, sharing) (first, last) =>
      sharing.state 0 [following, first, last]) reached).2.machine.size ≤
        reached.2.machine.size + 32 * stretch.length := by
  induction stretch generalizing reached with
  | nil => exact Nat.le_refl _
  | cons range rest inductionHypothesis =>
      have step := reached.2.size_state_le 0 [reached.1, range.1, range.2]
      have later := inductionHypothesis (reached.2.state 0 [reached.1, range.1, range.2])
      simp only [List.foldl_cons, List.length_cons] at later ⊢
      omega

theorem size_addReversed_le (target : Nat) (sharing : SharingMachine) (stretch : ByteStretch) :
    (addReversed target sharing stretch).machine.size ≤
      sharing.machine.size + 32 * stretch.length :=
  size_foldl_state_le stretch (target, sharing)

theorem size_growReversed_le (stretches : List ByteStretch) (machine : Machine) :
    (growReversed stretches machine).size ≤
      machine.size + 64 + 4 * stretches.length + 32 * stretches.flatten.length := by
  have kept : ∀ (target : Nat) (rest : List ByteStretch) (reached : SharingMachine),
      (rest.foldl (addReversed target) reached).machine.size ≤
        reached.machine.size + 32 * rest.flatten.length := by
    intro target rest
    induction rest with
    | nil => intro reached; exact Nat.le_refl _
    | cons stretch rest inductionHypothesis =>
        intro reached
        have step := size_addReversed_le target reached stretch
        have later := inductionHypothesis (addReversed target reached stretch)
        simp only [List.foldl_cons, List.flatten_cons, List.length_append] at later ⊢
        omega
  unfold growReversed
  apply Nat.le_trans (kept _ stretches _)
  simp only [Machine.size_add]
  omega

/-- The bytes that one character of a set takes at most. -/
def setBytes (set : CharSet) : Nat :=
  64 + 8 * set.ranges.length + 4 * (byteStretches set).length +
    40 * (byteStretches set).flatten.length

/-- One character of a set stays within the bound of the set in both directions. -/
theorem addsAtMost_setGrowth (direction : Direction) (set : CharSet) :
    (setGrowth direction set).AddsAtMost (setBytes set) := by
  unfold setGrowth setBytes
  split
  · have bound := (Growth.addsAtMost_plain 1).append
      (Growth.addsAtMost_arrows set.ranges.length)
    exact bound.weaken (by omega)
  · apply Growth.addsAtMost_varying
    intro machine
    cases direction with
    | forward =>
        have bound := size_growShared_le (byteStretches set) machine
        simp only [Thunk.get]
        omega
    | backward =>
        have bound := size_growReversed_le (byteStretches set) machine
        simp only [Thunk.get]
        omega

/-! ## Whole machines -/

namespace Outline

theorem addsAtMost_group {outline : Outline} {direction : Direction} {bytes : Nat}
    (bound : (outline.growth direction).AddsAtMost bytes) :
    ((group outline).growth direction).AddsAtMost (bytes + 64) := by
  rw [growth]
  split
  · have noted := Growth.addsAtMost_inTurn
      (.cons (Growth.addsAtMost_plain 1)
        (.cons bound (.cons (Growth.addsAtMost_plain 1) .nil)))
    exact noted.weaken (by simp only [List.foldl_cons, List.foldl_nil]; omega)
  · exact bound.weaken (Nat.le_add_right bytes 64)

/-- Beside its outline a machine has but a few states. -/
theorem size_machine_le {outline : Outline} {direction : Direction} {bytes : Nat}
    (bound : (outline.growth direction).AddsAtMost bytes) :
    (outline.machine direction).size ≤ bytes + 208 := by
  have skips : (if outline.isBound direction then Growth.plain 1
      else .inTurn [.fork 2, .plain 1, .arrows 1]).AddsAtMost 112 := by
    split
    · exact (Growth.addsAtMost_plain 1).weaken (by decide)
    · exact Growth.addsAtMost_fixed ⟨3, 16⟩
  have whole := Growth.addsAtMost_inTurn
    (.cons skips (.cons (addsAtMost_group bound) (.cons (Growth.addsAtMost_plain 1) .nil)))
  have step := whole.weaken (show _ ≤ bytes + 208 by
    simp only [List.foldl_cons, List.foldl_nil]
    omega)
  exact Nat.le_trans (step .empty) (by simp [Machine.size, Machine.empty])

/-- A pattern is not refused if little is added for it in both directions. -/
theorem fits_of_addsAtMost {outline : Outline} {bytes : Nat}
    (bound : ∀ direction, (outline.growth direction).AddsAtMost bytes)
    (small : bytes + 208 ≤ Machine.sizeLimit) :
    outline.fits = true := by
  have notTooLarge : ∀ direction, (outline.machine direction).isTooLarge = false := by
    intro direction
    have size := size_machine_le (bound direction)
    rw [Machine.isTooLarge, decide_eq_false_iff_not]
    omega
  have machines : outline.hasSmallMachines = true := by
    simp [hasSmallMachines, notTooLarge]
  simp [fits, machines]

end Outline

end ContentBlocking.Pattern
