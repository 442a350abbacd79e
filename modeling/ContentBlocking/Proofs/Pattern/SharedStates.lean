import ContentBlocking.Proofs.Pattern.MachineBound

/-!
# States that are remembered
-/

namespace ContentBlocking.Pattern

open ContentBlocking.Text

namespace Memory

def Holds (memory : Memory) (kind : List Nat → Nat → Prop) : Prop :=
  ∀ (place : Nat) (purpose : List Nat) (state : Nat),
    memory.kept[place]? = some (purpose, state) → kind purpose state

variable {memory : Memory} {kind other : List Nat → Nat → Prop} {purpose : List Nat} {state : Nat}

theorem holds_ofPlaces (places : Nat) (kind : List Nat → Nat → Prop) :
    (ofPlaces places).Holds kind := by
  intro place purpose state found
  simp [ofPlaces] at found

theorem Holds.mono (holds : memory.Holds kind)
    (implies : ∀ purpose state, kind purpose state → other purpose state) :
    memory.Holds other := by
  intro place purpose state found
  exact implies purpose state (holds place purpose state found)

theorem Holds.remember (holds : memory.Holds kind) (new : kind purpose state) :
    (memory.remember purpose state).Holds kind := by
  intro place otherPurpose otherState found
  rw [Memory.remember, Std.HashMap.getElem?_insert] at found
  split at found
  · cases found
    exact new
  · exact holds place otherPurpose otherState found

theorem Holds.of_find? (holds : memory.Holds kind) (found : memory.find? purpose = some state) :
    kind purpose state := by
  rw [find?] at found
  split at found
  · rename_i same kept
    split at found
    · rename_i isSame
      cases found
      rw [← isSame]
      exact holds _ _ _ kept
    · cases found
  · cases found

theorem Holds.find?_eq_none (holds : memory.Holds kind) (never : ∀ state, ¬ kind purpose state) :
    memory.find? purpose = none := by
  rw [Option.eq_none_iff_forall_ne_some]
  intro state found
  exact never state (holds.of_find? found)

end Memory

namespace SharingMachine

variable {sharing : SharingMachine} {purpose : List Nat}

theorem state_of_find?_eq_some {number : Nat} (known : sharing.memory.find? purpose = some number)
    (links : Nat) :
    sharing.state links purpose = (number, sharing) := by
  rw [state, known]

theorem state_of_find?_eq_none (new : sharing.memory.find? purpose = none) (links : Nat) :
    sharing.state links purpose = (sharing.machine.states,
      ⟨sharing.machine.add links, sharing.memory.remember purpose sharing.machine.states⟩) := by
  rw [state, new]

end SharingMachine

/-! ## From the back -/

/-- What a state is for that reads a range of bytes and then comes to another state. -/
def reading (following : Nat) (range : ByteRange) : List Nat := [following, range.1, range.2]

/-- What states are for that have been added from the back: in front of the target they read the
first range of a stretch, and otherwise they stand in front of a state that is not the last one. -/
def IsUsed (target states : Nat) (firsts : List (Option ByteRange)) (purpose : List Nat) : Prop :=
  (∃ range, some range ∈ firsts ∧ purpose = reading target range) ∨
    ∃ following range, purpose = reading following range ∧ target < following ∧
      following + 1 < states

/-- The stretches that have been read from the back, which begin with certain ranges, have brought
the machine to so many bytes, and nothing else is remembered. -/
structure ReadsBack (target bytes : Nat) (firsts : List (Option ByteRange))
    (sharing : SharingMachine) : Prop where
  behind : target < sharing.machine.states
  size : sharing.machine.size = bytes
  used : sharing.memory.Holds fun purpose _ => IsUsed target sharing.machine.states firsts purpose

theorem reading_inj {following other : Nat} {range otherRange : ByteRange} :
    reading following range = reading other otherRange ↔ following = other ∧ range = otherRange := by
  simp only [reading, List.cons.injEq, and_true, Prod.ext_iff]

section Stretches

variable {target bytes following : Nat} {firsts more : List (Option ByteRange)} {range : ByteRange}
  {stretches : List ByteStretch} {sharing : SharingMachine}

/-- A state that has not been needed before is added. -/
theorem ReadsBack.state {purpose : List Nat} (reads : ReadsBack target bytes firsts sharing)
    (new : ¬ IsUsed target sharing.machine.states firsts purpose) (fewer : firsts ⊆ more)
    (used : IsUsed target (sharing.machine.states + 1) more purpose) :
    ∃ grown, sharing.state 0 purpose = (sharing.machine.states, grown) ∧
      grown.machine.states = sharing.machine.states + 1 ∧
      ReadsBack target (bytes + 32) more grown := by
  refine ⟨_, SharingMachine.state_of_find?_eq_none (reads.used.find?_eq_none fun _ => new) 0, rfl,
    Nat.lt_succ_of_lt reads.behind, ?_, ?_⟩
  · rw [Machine.size_add, reads.size]
  · refine Memory.Holds.remember (reads.used.mono ?_) used
    intro other _ isUsed
    cases isUsed with
    | inl first =>
        obtain ⟨range, member, same⟩ := first
        exact Or.inl ⟨range, fewer member, same⟩
    | inr later =>
        obtain ⟨following, range, same, above, notLast⟩ := later
        exact Or.inr ⟨following, range, same, above, Nat.lt_succ_of_lt notLast⟩

/-- No state stands in front of the last one yet, so one is added for every range. -/
theorem ReadsBack.foldl_state (reads : ReadsBack target bytes firsts sharing)
    (last : sharing.machine.states = following + 1) (above : target < following)
    (stretch : ByteStretch) :
    ReadsBack target (bytes + 32 * stretch.length) firsts
      (stretch.foldl (fun (following, sharing) (first, last) =>
        sharing.state 0 [following, first, last]) (following, sharing)).2 := by
  induction stretch generalizing following sharing bytes with
  | nil => exact reads
  | cons range rest inductionHypothesis =>
      have new : ¬ IsUsed target sharing.machine.states firsts (reading following range) := by
        intro used
        simp only [IsUsed, reading_inj] at used
        cases used with
        | inl first =>
            obtain ⟨_, _, same, _⟩ := first
            omega
        | inr later =>
            obtain ⟨_, _, ⟨same, _⟩, _, notLast⟩ := later
            omega
      have used : IsUsed target (sharing.machine.states + 1) firsts (reading following range) :=
        Or.inr ⟨following, range, rfl, above, by omega⟩
      obtain ⟨grown, added, states, grownReads⟩ := reads.state new (List.Subset.refl firsts) used
      have later := inductionHypothesis grownReads states reads.behind
      rw [List.foldl_cons, List.length_cons, Nat.mul_succ, Nat.add_comm (32 * rest.length),
        ← Nat.add_assoc]
      change ReadsBack _ _ _ (rest.foldl _ (sharing.state 0 (reading following range))).2
      rw [added]
      exact later

/-- A stretch shares nothing with those before if none of them begins like it. -/
theorem ReadsBack.addReversed (reads : ReadsBack target bytes firsts sharing)
    (another : some range ∉ firsts) (rest : ByteStretch) :
    ReadsBack target (bytes + 32 * (range :: rest).length) (some range :: firsts)
      (addReversed target sharing (range :: rest)) := by
  have new : ¬ IsUsed target sharing.machine.states firsts (reading target range) := by
    intro used
    simp only [IsUsed, reading_inj] at used
    cases used with
    | inl first =>
        obtain ⟨other, member, _, same⟩ := first
        rw [same] at another
        exact another member
    | inr later =>
        obtain ⟨_, _, ⟨same, _⟩, above, _⟩ := later
        omega
  have used : IsUsed target (sharing.machine.states + 1) (some range :: firsts)
      (reading target range) :=
    Or.inl ⟨range, List.mem_cons_self, rfl⟩
  obtain ⟨grown, added, states, grownReads⟩ := reads.state new (List.subset_cons_self _ _) used
  have later := grownReads.foldl_state states reads.behind rest
  rw [List.length_cons, Nat.mul_succ, Nat.add_comm (32 * rest.length), ← Nat.add_assoc]
  change ReadsBack _ _ _ (rest.foldl _ (sharing.state 0 (reading target range))).2
  rw [added]
  exact later

/-- Whether stretches are not empty and no two of them begin alike. -/
def haveOwnFirsts (stretches : List ByteStretch) : Bool :=
  (none :: stretches.map List.head?).Nodup

/-- Stretches that begin differently share no states when they are read from the back. -/
theorem ReadsBack.foldl_addReversed (reads : ReadsBack target bytes firsts sharing)
    (filled : none ∉ stretches.map List.head?) (own : (stretches.map List.head?).Nodup)
    (others : ∀ first ∈ stretches.map List.head?, first ∉ firsts) :
    (stretches.foldl (Pattern.addReversed target) sharing).machine.size =
      bytes + 32 * stretches.flatten.length := by
  induction stretches generalizing sharing bytes firsts with
  | nil => exact reads.size
  | cons stretch rest inductionHypothesis =>
      rw [List.map_cons] at filled own others
      rw [List.nodup_cons] at own
      rw [List.mem_cons, not_or] at filled
      cases stretch with
      | nil => exact absurd rfl filled.1
      | cons range tail =>
          have grown := reads.addReversed (others _ List.mem_cons_self) tail
          rw [List.foldl_cons, inductionHypothesis grown filled.2 own.2]
          · rw [List.flatten_cons, List.length_append]
            omega
          · intro first member
            rw [List.mem_cons, not_or]
            refine ⟨?_, others first (List.mem_cons_of_mem _ member)⟩
            intro same
            rw [same] at member
            exact own.1 member

/-- If no two stretches begin alike, a state is added from the back for each of their ranges. -/
theorem size_growReversed (own : haveOwnFirsts stretches = true) (machine : Machine) :
    (growReversed stretches machine).size =
      machine.size + (64 + 4 * stretches.length + 32 * stretches.flatten.length) := by
  rw [haveOwnFirsts, decide_eq_true_eq, List.nodup_cons] at own
  have start : ReadsBack (machine.states + 1) (machine.size + (64 + 4 * stretches.length)) []
      ⟨(machine.add (4 * stretches.length)).add 0, .ofPlaces 1000⟩ := by
    refine ⟨Nat.lt_succ_self _, ?_, Memory.holds_ofPlaces 1000 _⟩
    rw [Machine.size_add, Machine.size_add]
    omega
  rw [← Nat.add_assoc machine.size]
  exact start.foldl_addReversed own.1 own.2 fun _ _ => List.not_mem_nil

end Stretches

end ContentBlocking.Pattern
