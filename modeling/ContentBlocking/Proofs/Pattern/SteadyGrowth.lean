import ContentBlocking.Proofs.Pattern.MachineGrowth
import ContentBlocking.Proofs.Pattern.SharedStates

/-!
# Comparing machines

Two outlines that have parts in common lead to machines of which one may be compared with the other
without knowing the size of either. Most parts add the same to every machine, so they keep the
distance between two machines. A set whose states may be shared does not. Read from the back, its
states are never shared if its stretches begin in different ways. Otherwise a distance between the
machines must make up for what varies.
-/

namespace ContentBlocking.Pattern

open ContentBlocking.Text

namespace Machine

/-- The machine takes so many bytes less than the other one, or that one is too large. -/
def IsBelow (machine other : Machine) (gap : Nat) : Prop :=
  machine.size + gap ≤ other.size ∨ other.isTooLarge = true

variable {machine other : Machine} {gap : Nat}

theorem IsBelow.isTooLarge (below : machine.IsBelow other gap) (tooLarge : machine.isTooLarge = true) :
    other.isTooLarge = true := by
  simp only [IsBelow, isTooLarge_iff] at below tooLarge ⊢
  omega

end Machine

/-- A growth keeps every distance between two machines. -/
def Growth.IsSteady (growth : Growth) : Prop :=
  ∀ gap machine other, machine.IsBelow other gap →
    (growth.applyTo machine).IsBelow (growth.applyTo other) gap

/-- From any machine the other growth leads to a machine that takes so many bytes more. -/
def Growth.IsBelow (growth other : Growth) (gap : Nat) : Prop :=
  ∀ machine, (growth.applyTo machine).IsBelow (other.applyTo machine) gap

namespace Growth

variable {growth other first second : Growth} {machine : Machine} {gap : Nat}

/-! ## Growths that keep distances -/

theorem isSteady_fixed (part : Machine) : (fixed part).IsSteady := by
  intro gap machine other below
  simp only [Machine.IsBelow, Machine.isTooLarge_iff, applyTo, Machine.size_append] at below ⊢
  omega

theorem isSteady_varying {grow : Machine → Machine}
    (steady : ∀ gap machine other, machine.IsBelow other gap →
      (grow machine).IsBelow (grow other) gap) :
    (varying grow).IsSteady := by
  intro gap machine other below
  by_cases tooLarge : other.isTooLarge = true
  · right
    exact isTooLarge_applyTo_varying grow tooLarge
  · rw [applyTo, applyTo, if_neg tooLarge, if_neg (mt below.isTooLarge tooLarge)]
    exact steady gap machine other below

theorem IsSteady.append (firstSteady : first.IsSteady) (secondSteady : second.IsSteady) :
    (first.append second).IsSteady := by
  intro gap machine other below
  by_cases tooLarge : other.isTooLarge = true
  · right
    exact isTooLarge_applyTo_append tooLarge
  · rw [applyTo_append tooLarge, applyTo_append (mt below.isTooLarge tooLarge)]
    exact secondSteady gap _ _ (firstSteady gap machine other below)

theorem isBelow_repeatOn {grow : Machine → Machine} (steady : (varying grow).IsSteady)
    (count gap : Nat) (machine other : Machine) (below : machine.IsBelow other gap) :
    (repeatOn grow count machine).IsBelow (repeatOn grow count other) gap := by
  induction count generalizing machine other with
  | zero => exact below
  | succ count inductionHypothesis =>
      rw [repeatOn, repeatOn]
      by_cases tooLarge : other.isTooLarge = true
      · right
        rw [if_pos tooLarge]
        exact tooLarge
      · have roomLeft := mt below.isTooLarge tooLarge
        have step := steady gap machine other below
        rw [applyTo, applyTo, if_neg tooLarge, if_neg roomLeft] at step
        rw [if_neg tooLarge, if_neg roomLeft]
        exact inductionHypothesis _ _ step

theorem IsSteady.copies (steady : growth.IsSteady) (count : Nat) :
    (growth.copies count).IsSteady := by
  cases growth with
  | fixed part => exact isSteady_fixed (part.copies count)
  | varying grow => exact isSteady_varying (isBelow_repeatOn steady count)

theorem isClosed_steady : IsClosed IsSteady :=
  ⟨isSteady_fixed, IsSteady.append, IsSteady.copies⟩

/-! ## Growths that take more than others -/

theorem isBelow_self (growth : Growth) : growth.IsBelow growth 0 := by
  intro machine
  left
  exact Nat.le_refl _

/-- A machine that is too large from the start needs no comparison. -/
theorem isBelow_append (below : ∀ machine, ¬ machine.isTooLarge = true →
      (growth.applyTo machine).IsBelow (second.applyTo (first.applyTo machine)) gap) :
    growth.IsBelow (first.append second) gap := by
  intro machine
  by_cases tooLarge : machine.isTooLarge = true
  · right
    exact isTooLarge_applyTo_append tooLarge
  · rw [applyTo_append tooLarge]
    exact below machine tooLarge

theorem IsBelow.append_left (below : growth.IsBelow other gap) (first : Growth) :
    (first.append growth).IsBelow (first.append other) gap := by
  apply isBelow_append
  intro machine roomLeft
  rw [applyTo_append roomLeft]
  exact below _

theorem IsBelow.append_steady (below : growth.IsBelow other gap) (steady : second.IsSteady) :
    (growth.append second).IsBelow (other.append second) gap := by
  apply isBelow_append
  intro machine roomLeft
  rw [applyTo_append roomLeft]
  exact steady gap _ _ (below machine)

theorem IsBelow.append_addsAtLeast {bytes : Nat} (below : growth.IsBelow other gap)
    (atLeast : second.AddsAtLeast bytes) :
    growth.IsBelow (other.append second) (gap + bytes) := by
  apply isBelow_append
  intro machine _
  have before := below machine
  have after := atLeast (other.applyTo machine)
  simp only [Machine.IsBelow, Machine.isTooLarge_iff] at before after ⊢
  omega

/-- A distance makes up for what varies. -/
theorem IsBelow.append_of_bounds {fewest most : Nat} (below : growth.IsBelow other gap)
    (atMost : second.AddsAtMost most) (atLeast : second.AddsAtLeast fewest)
    (enough : most ≤ gap + fewest) :
    (growth.append second).IsBelow (other.append second) 0 := by
  apply isBelow_append
  intro machine roomLeft
  rw [applyTo_append roomLeft]
  have before := below machine
  have upper := atMost (growth.applyTo machine)
  have lower := atLeast (other.applyTo machine)
  simp only [Machine.IsBelow, Machine.isTooLarge_iff] at before lower ⊢
  omega

theorem IsBelow.foldl_append {parts : List Growth} (below : growth.IsBelow other gap)
    (steady : ∀ part ∈ parts, part.IsSteady) :
    (parts.foldl append growth).IsBelow (parts.foldl append other) gap := by
  induction parts generalizing growth other with
  | nil => exact below
  | cons part parts inductionHypothesis =>
      have first := below.append_steady (steady part List.mem_cons_self)
      exact inductionHypothesis first fun later member =>
        steady later (List.mem_cons_of_mem part member)

end Growth

/-! ## Outlines that are read from the back -/

/-- A set grows steadily from the back if it is ASCII only or its byte forms begin differently. -/
theorem isSteady_setGrowth {set : CharSet}
    (steady : (set.isAscii || haveOwnFirsts (byteStretches set)) = true) :
    (setGrowth .backward set).IsSteady := by
  unfold setGrowth
  split
  · exact Growth.isSteady_fixed _
  · rename_i notAscii
    have own : haveOwnFirsts (byteStretches set) = true := by
      rwa [Bool.eq_false_iff.mpr notAscii, Bool.false_or] at steady
    apply Growth.isSteady_varying
    intro gap machine other below
    have size := size_growReversed own machine
    have otherSize := size_growReversed own other
    simp only [Machine.IsBelow, Machine.isTooLarge_iff, Thunk.get] at below ⊢
    omega

namespace Outline

mutual

/-- Whether an outline has no choices and no sets whose states may be shared from the back. -/
def isSteady : Outline → Bool
  | .empty | .look _ | .literal _ => true
  | .chars _ set => set.isAscii || haveOwnFirsts (byteStretches set)
  | .seq parts => areSteady parts
  | .choice _ => false
  | .group body => body.isSteady
  | .repetition body _ => body.isSteady

def areSteady : List Outline → Bool
  | [] => true
  | first :: rest => first.isSteady && areSteady rest

end

theorem areSteady_iff {parts : List Outline} :
    areSteady parts = true ↔ ∀ part ∈ parts, part.isSteady = true := by
  induction parts with
  | nil => simp [areSteady]
  | cons first rest inductionHypothesis =>
      rw [areSteady, Bool.and_eq_true, inductionHypothesis, List.forall_mem_cons]

mutual

/-- Read from the back, a steady outline keeps every distance between two machines. -/
theorem isSteady_growth : ∀ {outline : Outline}, outline.isSteady = true →
    (outline.growth .backward).IsSteady
  | .empty, _ | .look _, _ => Growth.isSteady_fixed ⟨1, 0⟩
  | .literal text, _ => Growth.isSteady_fixed ⟨(byteForms text).length, 0⟩
  | .chars _ set, steady => isSteady_setGrowth steady
  | .seq parts, steady => by
      rw [growth, if_neg (by decide)]
      apply Growth.isClosed_steady.inTurn
      intro part member
      exact isSteady_growths steady part (List.mem_reverse.mp member)
  | .choice _, steady => by cases steady
  | .group body, steady => by
      rw [growth, if_neg (by decide)]
      exact @isSteady_growth body steady
  | .repetition body counts, steady =>
      Growth.isClosed_steady.repetitionGrowth (@isSteady_growth body steady) _ counts

theorem isSteady_growths : ∀ {parts : List Outline}, areSteady parts = true →
    ∀ part ∈ growths .backward parts, part.IsSteady
  | [], _, _, member => absurd member List.not_mem_nil
  | first :: rest, steady, part, member => by
      rw [areSteady, Bool.and_eq_true] at steady
      rw [growths, List.mem_cons] at member
      cases member with
      | inl same =>
          rw [same]
          exact isSteady_growth steady.1
      | inr later => exact isSteady_growths steady.2 part later

end

/-! ## Sequences -/

section Steady

variable {part : Outline} {rest : List Outline}

theorem areSteady_cons (first : part.isSteady = true) (later : areSteady rest = true) :
    areSteady (cons part rest) = true := by
  unfold cons
  split
  · rw [areSteady] at later ⊢
    exact later
  · rw [areSteady, first, later]
    rfl

theorem areSteady_prepend (first : part.isSteady = true) (later : areSteady rest = true) :
    areSteady (prepend part rest) = true := by
  unfold prepend
  split
  · exact later
  · rename_i parts
    rw [isSteady, areSteady_iff] at first
    refine List.foldrRecOn (motive := fun joined => areSteady joined = true) parts cons later ?_
    intro joined steady inner member
    exact areSteady_cons (first inner member) steady
  · exact areSteady_cons first later

end Steady

/-- Whether outlines do not begin with a text. -/
def startsApart : List Outline → Bool
  | .literal _ :: _ => false
  | _ => true

section Apart

variable {rest : List Outline} (apart : startsApart rest = true)

include apart

theorem cons_append (part : Outline) (parts : List Outline) :
    cons part (parts ++ rest) = cons part parts ++ rest := by
  cases parts with
  | cons first parts =>
      rw [List.cons_append]
      cases part <;> cases first <;> rfl
  | nil =>
      rw [List.nil_append]
      cases part with
      | literal text =>
          cases rest with
          | nil => rfl
          | cons first rest =>
              cases first with
              | literal _ => cases apart
              | _ => rfl
      | _ => rfl

theorem prepend_append (part : Outline) (parts : List Outline) :
    prepend part (parts ++ rest) = prepend part parts ++ rest := by
  cases part with
  | empty => rfl
  | seq inner =>
      change inner.foldr cons (parts ++ rest) = inner.foldr cons parts ++ rest
      induction inner with
      | nil => rfl
      | cons first inner inductionHypothesis =>
          rw [List.foldr_cons, List.foldr_cons, inductionHypothesis, cons_append apart]
  | _ =>
      simp only [prepend]
      exact cons_append apart _ parts

/-- What does not begin with a text is joined to nothing in front of it. -/
theorem foldr_prepend_append (parts : List Outline) :
    parts.foldr prepend rest = parts.foldr prepend [] ++ rest := by
  induction parts with
  | nil => rfl
  | cons part parts inductionHypothesis =>
      rw [List.foldr_cons, List.foldr_cons, inductionHypothesis, prepend_append apart]

end Apart

theorem growths_append (direction : Direction) (parts others : List Outline) :
    growths direction (parts ++ others) = growths direction parts ++ growths direction others := by
  rw [growths_eq_map, growths_eq_map, growths_eq_map, List.map_append]

theorem partBindings_append (direction : Direction) (parts others : List Outline) :
    partBindings direction (parts ++ others) =
      partBindings direction parts ++ partBindings direction others := by
  induction parts with
  | nil => rfl
  | cons part parts inductionHypothesis =>
      rw [List.cons_append, partBindings, inductionHypothesis]
      rfl

/-! ## Whole machines -/

/-- The machine of an outline is no larger than that of another one that is bound alike and adds no
less. -/
theorem machine_isBelow {outline other : Outline} {direction : Direction}
    (bound : outline.isBound direction = other.isBound direction)
    (below : (outline.growth direction).IsBelow (other.growth direction) 0) :
    (outline.machine direction).IsBelow (other.machine direction) 0 := by
  have state : (Growth.plain 1).IsSteady := Growth.isSteady_fixed _
  have grouped : ((group outline).growth direction).IsBelow ((group other).growth direction) 0 := by
    rw [growth, growth]
    split
    · exact (below.append_left _).append_steady state
    · exact below
  rw [machine, machine, bound]
  exact ((grouped.append_left _).append_steady state) .empty

/-- An outline has small machines if another one has whose machines are no smaller. -/
theorem hasSmallMachines_of_isBelow {outline other : Outline}
    (below : ∀ direction, (outline.machine direction).IsBelow (other.machine direction) 0)
    (small : other.hasSmallMachines = true) :
    outline.hasSmallMachines = true := by
  rw [hasSmallMachines, Bool.and_eq_true, Bool.not_eq_true', Bool.not_eq_true'] at small ⊢
  have fits : ∀ direction, (other.machine direction).isTooLarge = false →
      (outline.machine direction).isTooLarge = false := by
    intro direction roomLeft
    rw [Bool.eq_false_iff] at roomLeft ⊢
    exact mt (below direction).isTooLarge roomLeft
  exact ⟨fits .forward small.1, fits .backward small.2⟩

end Outline

end ContentBlocking.Pattern
