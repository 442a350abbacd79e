import Mathlib.Data.List.Perm.Basic
import ContentBlocking.Proofs.Pattern.MachineBound
import ContentBlocking.Proofs.Trigger.Coverage

/-!
# Filters that are small enough

How much an outline adds to a machine is bounded by what its parts add, without a machine and in
both directions at once. Choices are left without a bound, since the states for texts are shared. A
filter whose outline has a small bound is not refused, so it matches whatever its tree describes.
-/

namespace ContentBlocking.Pattern

open ContentBlocking.Text

/-! ## Repetitions -/

theorem Machine.size_copies (part : Machine) (count : Nat) :
    (part.copies count).size = count * part.size := by
  simp only [Machine.copies, Machine.size, Nat.mul_add]
  rw [Nat.mul_left_comm]

namespace Growth

theorem AddsAtMost.copies {growth : Growth} {bytes : Nat} (bound : growth.AddsAtMost bytes)
    (count : Nat) :
    (growth.copies count).AddsAtMost (count * bytes) := by
  cases growth with
  | fixed part =>
      have once : part.size ≤ bytes := by
        have step := bound .empty
        rw [applyTo, Machine.size_append] at step
        exact Nat.le_of_add_le_add_left step
      have often := Nat.mul_le_mul_left count once
      exact (addsAtMost_fixed (part.copies count)).weaken (by rwa [Machine.size_copies])
  | varying grow =>
      apply addsAtMost_varying
      induction count with
      | zero => intro machine; exact Nat.le_add_right machine.size (0 * bytes)
      | succ count inductionHypothesis =>
          intro machine
          rw [repeatOn, Nat.succ_mul]
          split
          · exact Nat.le_add_right machine.size (count * bytes + bytes)
          · rename_i roomLeft
            have step := bound machine
            rw [applyTo, if_neg roomLeft] at step
            have later := inductionHypothesis (grow machine)
            omega

end Growth

/-- The bytes that a repetition takes at most if what is repeated takes so many. -/
def repetitionBytes (counts : Counts) (body : Nat) : Nat :=
  (counts.least + counts.most.getD 1) * (body + 40) + 112

section Repetitions

variable {body : Growth} {bytes : Nat}

theorem addsAtMost_repetitionGrowth_unlimited (bound : body.AddsAtMost bytes) (consumes : Bool)
    (least : Nat) (few : Bool) :
    (repetitionGrowth body consumes ⟨least, none, few⟩).AddsAtMost
      ((least + 1) * (bytes + 40) + 112) := by
  have fork : (Growth.fork 2).AddsAtMost 40 := Growth.addsAtMost_fork 2
  have state : (Growth.plain 1).AddsAtMost 32 := Growth.addsAtMost_plain 1
  have once := Nat.le_mul_of_pos_left (bytes + 40) (Nat.add_one_pos least)
  unfold repetitionGrowth
  simp only
  split
  · split
    · refine (Growth.addsAtMost_inTurn (.cons fork (.cons bound .nil))).weaken ?_
      simp only [List.foldl_cons, List.foldl_nil]
      omega
    · refine (Growth.addsAtMost_inTurn
        (.cons bound (.cons fork (.cons fork (.cons state .nil))))).weaken ?_
      simp only [List.foldl_cons, List.foldl_nil]
      omega
  · refine (Growth.addsAtMost_inTurn (.cons (bound.copies least) (.cons fork .nil))).weaken ?_
    have copies := Nat.mul_le_mul (Nat.le_add_right least 1) (Nat.le_add_right bytes 40)
    simp only [List.foldl_cons, List.foldl_nil]
    omega

theorem addsAtMost_repetitionGrowth_limited (bound : body.AddsAtMost bytes) (consumes : Bool)
    (least most : Nat) (few : Bool) :
    (repetitionGrowth body consumes ⟨least, some most, few⟩).AddsAtMost
      ((least + most) * (bytes + 40) + 112) := by
  have fork : (Growth.fork 2).AddsAtMost 40 := Growth.addsAtMost_fork 2
  have state : (Growth.plain 1).AddsAtMost 32 := Growth.addsAtMost_plain 1
  unfold repetitionGrowth
  simp only
  split
  · rename_i optional
    have atMostOnce : most = 1 := by
      simp only [Bool.and_eq_true, decide_eq_true_eq] at optional
      exact optional.2
    have once := Nat.le_mul_of_pos_left (bytes + 40) (show 0 < least + most by omega)
    refine (Growth.addsAtMost_inTurn (.cons fork (.cons bound (.cons state .nil)))).weaken ?_
    simp only [List.foldl_cons, List.foldl_nil]
    omega
  · split
    · have copies := Nat.mul_le_mul (Nat.le_add_left most least) (Nat.le_add_right bytes 40)
      exact (bound.copies most).weaken (by omega)
    · have required : (if least = 0 then Growth.plain 1 else body.copies least).AddsAtMost
          (32 + least * bytes) := by
        split
        · exact state.weaken (Nat.le_add_right 32 (least * bytes))
        · exact (bound.copies least).weaken (Nat.le_add_left (least * bytes) 32)
      have further := (fork.append bound).copies (most - least)
      refine (Growth.addsAtMost_inTurn
        (.cons required (.cons state (.cons further .nil)))).weaken ?_
      have requiredCopies := Nat.mul_le_mul_left least (Nat.le_add_right bytes 40)
      have furtherCopies := Nat.mul_le_mul (Nat.sub_le most least)
        (Nat.le_of_eq (Nat.add_comm 40 bytes))
      simp only [List.foldl_cons, List.foldl_nil, Nat.add_mul least most (bytes + 40)]
      omega

/-- A repetition takes at most the bytes that its counts and the bound of its body allow for. -/
theorem addsAtMost_repetitionGrowth (bound : body.AddsAtMost bytes) (consumes : Bool)
    (counts : Counts) :
    (repetitionGrowth body consumes counts).AddsAtMost (repetitionBytes counts bytes) := by
  obtain ⟨least, most, few⟩ := counts
  cases most with
  | none => exact addsAtMost_repetitionGrowth_unlimited bound consumes least few
  | some most => exact addsAtMost_repetitionGrowth_limited bound consumes least most few

end Repetitions

/-! ## Outlines -/

namespace Outline

mutual

/-- The bytes that an outline adds to a machine at most, if it has no choices. -/
def bytesBound? : Outline → Option Nat
  | .empty | .look _ => some 32
  | .literal text => some (32 * (byteForms text).length)
  | .chars _ set => some (setBytes set)
  | .seq parts => (bytesBounds? parts).map (List.foldl (· + ·) 0)
  | .choice _ => none
  | .group body => body.bytesBound?.map (· + 64)
  | .repetition body counts => body.bytesBound?.map (repetitionBytes counts)

def bytesBounds? : List Outline → Option (List Nat)
  | [] => some []
  | first :: rest =>
      match first.bytesBound?, bytesBounds? rest with
      | some bytes, some others => some (bytes :: others)
      | _, _ => none

end

theorem addsAtMost_seq {direction : Direction} {parts : List Outline} {bounds : List Nat}
    (partBounds : List.Forall₂ Growth.AddsAtMost (growths direction parts) bounds) :
    ((seq parts).growth direction).AddsAtMost (bounds.foldl (· + ·) 0) := by
  rw [growth]
  split
  · exact Growth.addsAtMost_inTurn partBounds
  · rw [← (List.reverse_perm bounds).foldl_eq]
    exact Growth.addsAtMost_inTurn (List.forall₂_reverse_iff.mpr partBounds)

mutual

/-- The bound holds whatever the direction is in which the machine reads. -/
theorem addsAtMost_of_bytesBound? (direction : Direction) :
    ∀ {outline : Outline} {bytes : Nat}, outline.bytesBound? = some bytes →
      (outline.growth direction).AddsAtMost bytes
  | .empty, bytes, bounded | .look _, bytes, bounded => by
      cases bounded
      exact Growth.addsAtMost_plain 1
  | .literal text, bytes, bounded => by
      cases bounded
      exact Growth.addsAtMost_plain (byteForms text).length
  | .chars alphabet set, bytes, bounded => by
      cases bounded
      exact addsAtMost_setGrowth direction set
  | .seq parts, bytes, bounded => by
      obtain ⟨bounds, partsBounded, rfl⟩ := Option.map_eq_some_iff.mp bounded
      exact addsAtMost_seq (addsAtMost_of_bytesBounds? direction partsBounded)
  | .choice alternatives, bytes, bounded => by
      cases bounded
  | .group body, bytes, bounded => by
      obtain ⟨bodyBytes, bodyBounded, rfl⟩ := Option.map_eq_some_iff.mp bounded
      exact addsAtMost_group (addsAtMost_of_bytesBound? direction bodyBounded)
  | .repetition body counts, bytes, bounded => by
      obtain ⟨bodyBytes, bodyBounded, rfl⟩ := Option.map_eq_some_iff.mp bounded
      exact addsAtMost_repetitionGrowth (addsAtMost_of_bytesBound? direction bodyBounded)
        (body.minLength.any (0 < ·)) counts

theorem addsAtMost_of_bytesBounds? (direction : Direction) :
    ∀ {parts : List Outline} {bounds : List Nat}, bytesBounds? parts = some bounds →
      List.Forall₂ Growth.AddsAtMost (growths direction parts) bounds
  | [], bounds, bounded => by
      cases bounded
      exact .nil
  | first :: rest, bounds, bounded => by
      rw [bytesBounds?] at bounded
      split at bounded
      · rename_i bytes others firstBounded restBounded
        cases bounded
        exact .cons (addsAtMost_of_bytesBound? direction firstBounded)
          (addsAtMost_of_bytesBounds? direction restBounded)
      · cases bounded

end

/-- Whether the bound of an outline leaves room for the other states of its machines. -/
def isSmall (outline : Outline) : Bool :=
  outline.bytesBound?.any fun bytes => bytes + 208 ≤ Machine.sizeLimit

/-- An outline with a small bound fits. -/
theorem fits_of_isSmall {outline : Outline} (small : outline.isSmall = true) :
    outline.fits = true := by
  obtain ⟨bytes, bounded, room⟩ := (Option.any_eq_true _ _).mp small
  exact fits_of_addsAtMost (fun direction => addsAtMost_of_bytesBound? direction bounded)
    (of_decide_eq_true room)

end Outline

end ContentBlocking.Pattern

namespace ContentBlocking.Filter

theorem Matches.isSome {filter url : String} (matched : Matches filter url) :
    (Pattern.ofFilter? filter).isSome = true := by
  obtain ⟨pattern, read, _⟩ := matched
  rw [read]
  rfl

section Written

variable {filter url : String} {tree : Pattern.Written}

/-- A filter that can be read is refused for its size only. -/
theorem ofFilter?_of_written
    (written : Pattern.Written.ofChars? { ignoreCase := true } filter.toList = some tree) :
    Pattern.ofFilter? filter = if tree.outline.fits then some tree.toPattern else none := by
  rw [Pattern.ofFilter?, Pattern.ofChars?, written]

/-- A filter that can be read is accepted exactly if its outline fits. -/
theorem isSome_iff_of_written
    (written : Pattern.Written.ofChars? { ignoreCase := true } filter.toList = some tree) :
    (Pattern.ofFilter? filter).isSome = true ↔ tree.outline.fits = true := by
  rw [ofFilter?_of_written written]
  split <;> simp_all

/-- A filter that fits matches the URLs in which the pattern of its tree occurs. -/
theorem matches_iff_of_fits
    (written : Pattern.Written.ofChars? { ignoreCase := true } filter.toList = some tree)
    (fits : tree.outline.fits = true) :
    Matches filter url ↔ tree.toPattern.OccursIn url.toList := by
  have read := ofFilter?_of_written written
  rw [if_pos fits] at read
  simp [Matches, read]

theorem matches_iff_of_written
    (written : Pattern.Written.ofChars? { ignoreCase := true } filter.toList = some tree)
    (small : tree.outline.isSmall = true) :
    Matches filter url ↔ tree.toPattern.OccursIn url.toList :=
  matches_iff_of_fits written (Pattern.Outline.fits_of_isSmall small)

end Written

end ContentBlocking.Filter
