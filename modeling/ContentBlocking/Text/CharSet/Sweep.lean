/-!
# Sweeping through bounds

A set of code points is given by its bounds: the code points at which one enters or leaves it when
one goes through all code points in order. One sweep through the bounds of two sets joins them in
any way that can be decided code point by code point; `isInside_sweep` says so, and `pairwise_sweep`
that the bounds of the join are in order again.
-/

namespace ContentBlocking.Text

namespace CharSet

/-- Whether a code point is inside, for somebody who starts inside or outside before all bounds and
changes sides at each of them. -/
def isInside (inside : Bool) : List Nat → Nat → Bool
  | [], _ => inside
  | bound :: rest, code => if code < bound then inside else isInside (!inside) rest code

/-! ## Joins -/

/-- Puts a bound in front if the sides before it and behind it differ. -/
def turnAt (bound : Nat) (before behind : Bool) (rest : List Nat) : List Nat :=
  if before = behind then rest else bound :: rest

def sweepRight (join : Bool → Bool → Bool) (left : Bool) : Bool → List Nat → List Nat
  | _, [] => []
  | right, bound :: rest =>
      turnAt bound (join left right) (join left (!right)) (sweepRight join left (!right) rest)

/-- The bounds of a join up to the next bound of the left set and on from there. -/
def sweepTo (join : Bool → Bool → Bool) (bound : Nat) (onward : Bool → Bool → List Nat → List Nat)
    (left : Bool) : Bool → List Nat → List Nat
  | right, [] => turnAt bound (join left right) (join (!left) right) (onward (!left) right [])
  | right, other :: rest =>
      if bound < other then
        turnAt bound (join left right) (join (!left) right) (onward (!left) right (other :: rest))
      else if other < bound then
        turnAt other (join left right) (join left (!right))
          (sweepTo join bound onward left (!right) rest)
      else
        turnAt bound (join left right) (join (!left) (!right)) (onward (!left) (!right) rest)

/-- The bounds of a join of two sets, on whose sides one starts. -/
def sweep (join : Bool → Bool → Bool) : List Nat → Bool → Bool → List Nat → List Nat
  | [] => sweepRight join
  | bound :: rest => sweepTo join bound (sweep join rest)

/-! ## The bounds of a join are in order -/

theorem mem_turnAt {bound other : Nat} {before behind : Bool} {rest : List Nat}
    (h : other ∈ turnAt bound before behind rest) : other = bound ∨ other ∈ rest := by
  unfold turnAt at h
  split at h
  · exact .inr h
  · exact List.mem_cons.1 h

theorem mem_sweepRight {join : Bool → Bool → Bool} {left right : Bool} {bounds : List Nat}
    {bound : Nat} (h : bound ∈ sweepRight join left right bounds) : bound ∈ bounds := by
  induction bounds generalizing right with
  | nil => cases h
  | cons first rest ih =>
      rcases mem_turnAt h with rfl | later
      · exact List.mem_cons_self
      · exact List.mem_cons_of_mem _ (ih later)

theorem mem_sweep {join : Bool → Bool → Bool} {lefts rights : List Nat} {left right : Bool}
    {bound : Nat} (h : bound ∈ sweep join lefts left right rights) :
    bound ∈ lefts ∨ bound ∈ rights := by
  induction lefts generalizing left right rights with
  | nil => exact .inr (mem_sweepRight h)
  | cons first lefts ih =>
      rw [sweep] at h
      induction rights generalizing right with
      | nil =>
          rcases mem_turnAt h with rfl | later
          · exact .inl List.mem_cons_self
          · exact (ih later).imp (List.mem_cons_of_mem _) id
      | cons other rights innerIH =>
          rw [sweepTo] at h
          split at h
          · rcases mem_turnAt h with rfl | later
            · exact .inl List.mem_cons_self
            · exact (ih later).imp (List.mem_cons_of_mem _) id
          · split at h
            · rcases mem_turnAt h with rfl | later
              · exact .inr List.mem_cons_self
              · exact (innerIH later).imp id (List.mem_cons_of_mem _)
            · rcases mem_turnAt h with rfl | later
              · exact .inl List.mem_cons_self
              · exact (ih later).imp (List.mem_cons_of_mem _) (List.mem_cons_of_mem _)

theorem pairwise_turnAt {bound : Nat} {before behind : Bool} {rest : List Nat}
    (ascending : rest.Pairwise (· < ·)) (above : ∀ other ∈ rest, bound < other) :
    (turnAt bound before behind rest).Pairwise (· < ·) := by
  unfold turnAt
  split
  · exact ascending
  · exact List.pairwise_cons.2 ⟨above, ascending⟩

theorem pairwise_sweepRight {join : Bool → Bool → Bool} {left right : Bool} {bounds : List Nat}
    (ascending : bounds.Pairwise (· < ·)) :
    (sweepRight join left right bounds).Pairwise (· < ·) := by
  induction bounds generalizing right with
  | nil => exact .nil
  | cons first rest ih =>
      obtain ⟨above, ascending⟩ := List.pairwise_cons.1 ascending
      exact pairwise_turnAt (ih ascending) fun other h => above other (mem_sweepRight h)

/-- The bounds of a join increase. -/
theorem pairwise_sweep {join : Bool → Bool → Bool} {lefts rights : List Nat} {left right : Bool}
    (leftAscending : lefts.Pairwise (· < ·)) (rightAscending : rights.Pairwise (· < ·)) :
    (sweep join lefts left right rights).Pairwise (· < ·) := by
  induction lefts generalizing left right rights with
  | nil => exact pairwise_sweepRight rightAscending
  | cons first lefts ih =>
      obtain ⟨leftAbove, leftTail⟩ := List.pairwise_cons.1 leftAscending
      rw [sweep]
      induction rights generalizing right with
      | nil =>
          exact pairwise_turnAt (ih leftTail rightAscending)
            fun other h => (mem_sweep h).elim (leftAbove other) (by simp)
      | cons second rights innerIH =>
          obtain ⟨rightAbove, rightTail⟩ := List.pairwise_cons.1 rightAscending
          rw [sweepTo]
          split
          · rename_i lower
            refine pairwise_turnAt (ih leftTail rightAscending) fun other h => ?_
            rcases mem_sweep h with h | h
            · exact leftAbove other h
            · rcases List.mem_cons.1 h with rfl | h
              · exact lower
              · exact Nat.lt_trans lower (rightAbove other h)
          · split
            · rename_i lower
              refine pairwise_turnAt (innerIH rightTail) fun other h => ?_
              have member : other ∈ first :: lefts ∨ other ∈ rights :=
                mem_sweep (by rw [sweep]; exact h)
              rcases member with h | h
              · rcases List.mem_cons.1 h with rfl | h
                · exact lower
                · exact Nat.lt_trans lower (leftAbove other h)
              · exact rightAbove other h
            · rename_i notLower notHigher
              have same : second = first := by omega
              refine pairwise_turnAt (ih leftTail rightTail) fun other h => ?_
              rcases mem_sweep h with h | h
              · exact leftAbove other h
              · exact same ▸ rightAbove other h

/-! ## Where a join is inside -/

theorem isInside_of_lt {inside : Bool} {bounds : List Nat} {code : Nat}
    (below : ∀ bound ∈ bounds, code < bound) : isInside inside bounds code = inside := by
  cases bounds with
  | nil => rfl
  | cons bound rest => rw [isInside, if_pos (below bound List.mem_cons_self)]

theorem isInside_turnAt {bound code : Nat} {before behind : Bool} {rest : List Nat}
    (above : ∀ other ∈ rest, bound < other) :
    isInside before (turnAt bound before behind rest) code =
      if code < bound then before else isInside behind rest code := by
  unfold turnAt
  split
  · rename_i same
    subst same
    split
    · rename_i lower
      exact isInside_of_lt fun other h => Nat.lt_trans lower (above other h)
    · rfl
  · rename_i differ
    rw [isInside, show (!before) = behind by cases before <;> cases behind <;> simp_all]

theorem isInside_sweepRight {join : Bool → Bool → Bool} {left right : Bool} {bounds : List Nat}
    {code : Nat} (ascending : bounds.Pairwise (· < ·)) :
    isInside (join left right) (sweepRight join left right bounds) code =
      join left (isInside right bounds code) := by
  induction bounds generalizing right with
  | nil => rfl
  | cons bound rest ih =>
      obtain ⟨above, ascending⟩ := List.pairwise_cons.1 ascending
      rw [sweepRight, isInside_turnAt fun other h => above other (mem_sweepRight h), isInside,
        ih ascending]
      split <;> rfl

/-- A join is decided code point by code point. -/
theorem isInside_sweep {join : Bool → Bool → Bool} {lefts rights : List Nat} {left right : Bool}
    {code : Nat} (leftAscending : lefts.Pairwise (· < ·))
    (rightAscending : rights.Pairwise (· < ·)) :
    isInside (join left right) (sweep join lefts left right rights) code =
      join (isInside left lefts code) (isInside right rights code) := by
  induction lefts generalizing left right rights with
  | nil => exact isInside_sweepRight rightAscending
  | cons first lefts ih =>
      obtain ⟨leftAbove, leftTail⟩ := List.pairwise_cons.1 leftAscending
      rw [sweep]
      induction rights generalizing right with
      | nil =>
          have above : ∀ other ∈ sweep join lefts (!left) right [], first < other :=
            fun other h => (mem_sweep h).elim (leftAbove other) (by simp)
          rw [sweepTo, isInside_turnAt above, ih leftTail rightAscending, isInside.eq_2 left]
          split <;> rfl
      | cons second rights innerIH =>
          obtain ⟨rightAbove, rightTail⟩ := List.pairwise_cons.1 rightAscending
          rw [sweepTo]
          split
          · rename_i lower
            rw [isInside_turnAt, ih leftTail rightAscending, isInside.eq_2 left]
            · split
              · rename_i below
                rw [isInside, if_pos (Nat.lt_trans below lower)]
              · rfl
            · intro other h
              rcases mem_sweep h with h | h
              · exact leftAbove other h
              · rcases List.mem_cons.1 h with rfl | h
                · exact lower
                · exact Nat.lt_trans lower (rightAbove other h)
          · split
            · rename_i lower
              rw [isInside_turnAt, innerIH rightTail, isInside.eq_2 right]
              · split
                · rename_i below
                  rw [isInside, if_pos (Nat.lt_trans below lower)]
                · rfl
              · intro other h
                have member : other ∈ first :: lefts ∨ other ∈ rights :=
                  mem_sweep (by rw [sweep]; exact h)
                rcases member with h | h
                · rcases List.mem_cons.1 h with rfl | h
                  · exact lower
                  · exact Nat.lt_trans lower (leftAbove other h)
                · exact rightAbove other h
            · rename_i notLower notHigher
              have same : second = first := by omega
              subst same
              rw [isInside_turnAt, ih leftTail rightTail, isInside.eq_2 left, isInside.eq_2 right]
              · split <;> rfl
              · intro other h
                rcases mem_sweep h with h | h
                · exact leftAbove other h
                · exact rightAbove other h

end CharSet

end ContentBlocking.Text
