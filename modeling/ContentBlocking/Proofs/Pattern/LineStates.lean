import ContentBlocking.Proofs.Pattern.MachineGrowth
import ContentBlocking.Proofs.Pattern.SharedStates

/-!
# The states of a line

All characters but a line feed may stand in a line. Read from the front, most of their byte forms
end in a byte that continues, for which one state in front of the target is enough. It is found
whenever it is needed, because no state with a near number has the same place in the memory. Other
states may lose their places, so how many of them there are depends on the machine, but within
bounds.
-/

namespace ContentBlocking.Pattern

open ContentBlocking.Text

namespace Memory

/-! ## Places -/

/-- The last four bits after a round of mixing depend only on the last four bits of what is mixed.
-/
theorem mixed_mod (mixed : UInt64) (number : Nat) :
    ((mixed ^^^ number.toUInt64) * 1099511628211).toNat % 16 =
      (mixed.toNat % 16 ^^^ number % 16) * 3 % 16 := by
  have low : (mixed ^^^ number.toUInt64).toNat % 16 = mixed.toNat % 16 ^^^ number % 16 := by
    rw [UInt64.toNat_xor, show 16 = 2 ^ 4 from rfl, Nat.xor_mod_two_pow, UInt64.toNat_ofNat',
      Nat.mod_mod_of_dvd _ (by decide)]
  rw [UInt64.toNat_mul, Nat.mod_mod_of_dvd _ (by decide), Nat.mul_mod, low]
  rfl

/-- Sixteen divides the number of places, so the last four bits of a place depend on no others. A
first byte that ends in four zeros and a last byte that ends in four ones leave no trace in them. -/
theorem place_mod {memory : Memory} (places : memory.places = 10000) {first last : Nat}
    (aligned : first % 16 = 0) (full : last % 16 = 15) (following : Nat) :
    memory.place [first, last, following] % 16 = following % 16 * 3 % 16 := by
  have start : ((14695981039346656037 : UInt64).toNat % 16 ^^^ first % 16) * 3 % 16 = 15 := by
    rw [aligned]
    rfl
  have middle : (15 ^^^ last % 16) * 3 % 16 = 0 := by
    rw [full]
    rfl
  rw [place, places, Nat.mod_mod_of_dvd _ (by decide)]
  simp only [List.foldl_cons, List.foldl_nil]
  rw [mixed_mod, mixed_mod, mixed_mod, start, middle, Nat.zero_xor]

theorem find?_remember_of_place_ne {memory : Memory} {purpose other : List Nat}
    (apart : memory.place other ≠ memory.place purpose) (state : Nat) :
    (memory.remember other state).find? purpose = memory.find? purpose := by
  have samePlace : (memory.remember other state).place purpose = memory.place purpose := rfl
  rw [find?, find?, samePlace, remember, Std.HashMap.getElem?_insert, if_neg]
  rwa [beq_iff_eq]

end Memory

/-! ## What continues -/

def continuing : ByteRange := (0x80, 0xbf)

/-- Whether the first byte of a range ends in four zeros and the last one in four ones. -/
def isAligned (range : ByteRange) : Bool := range.1 % 16 = 0 && range.2 % 16 = 15

/-- So many states have been added behind the target, with one arrow each. The one that reads any
continuing byte in front of the target is remembered, and so is nothing but such states. -/
structure Knows (target known bytes count : Nat) (sharing : SharingMachine) : Prop where
  places : sharing.memory.places = 10000
  states : sharing.machine.states = target + 1 + count
  size : sharing.machine.size = bytes + 40 * count
  found : sharing.memory.find? [continuing.1, continuing.2, target] = some known
  kept : sharing.memory.Holds fun purpose state =>
    purpose.length = 3 ∧ target < state ∧ state ≤ target + count

section Closing

variable {target known bytes count following : Nat} {sharing : SharingMachine} {range : ByteRange}

/-- Numbers that differ by less than sixteen never share a place, so what is known is not lost. -/
theorem Knows.add_state (knows : Knows target known bytes count sharing)
    (aligned : isAligned range = true) (above : target < following) (near : following < target + 16) :
    Knows target known bytes (count + 1) ⟨sharing.machine.add 8,
      sharing.memory.remember [range.1, range.2, following] (target + 1 + count)⟩ := by
  rw [isAligned, Bool.and_eq_true, decide_eq_true_eq, decide_eq_true_eq] at aligned
  have apart : sharing.memory.place [range.1, range.2, following] ≠
      sharing.memory.place [continuing.1, continuing.2, target] := by
    intro same
    have ends := Memory.place_mod knows.places aligned.1 aligned.2 following
    rw [same, Memory.place_mod knows.places rfl rfl target] at ends
    omega
  refine ⟨knows.places, ?_, ?_, ?_, ?_⟩
  · change sharing.machine.states + 1 = _
    rw [knows.states, Nat.add_assoc]
  · rw [Machine.size_add, knows.size]
    omega
  · rw [Memory.find?_remember_of_place_ne apart]
    exact knows.found
  · refine Memory.Holds.remember (knows.kept.mono ?_) ⟨rfl, ?_⟩
    · intro purpose state isKept
      exact ⟨isKept.1, isKept.2.1, Nat.le_succ_of_le isKept.2.2⟩
    · omega

/-- The state for an aligned range is added, unless it is there already. -/
theorem Knows.state (knows : Knows target known bytes count sharing) (aligned : isAligned range = true)
    (above : target < following) (near : following < target + 16) :
    ∃ more ≤ 1, ∃ state grown, sharing.state 8 [range.1, range.2, following] = (state, grown) ∧
      target < state ∧ state ≤ target + (count + more) ∧
      Knows target known bytes (count + more) grown := by
  cases remembered : sharing.memory.find? [range.1, range.2, following] with
  | some state =>
      obtain ⟨_, behind, notBeyond⟩ := knows.kept.of_find? remembered
      exact ⟨0, Nat.zero_le 1, state, sharing,
        SharingMachine.state_of_find?_eq_some remembered 8, behind, notBeyond, knows⟩
  | none =>
      have added := SharingMachine.state_of_find?_eq_none remembered 8
      rw [knows.states] at added
      exact ⟨1, Nat.le_refl 1, target + 1 + count, _, added, by omega, by omega,
        knows.add_state aligned above near⟩

/-- Open states for ranges that are followed by a continuing byte. -/
def openRanges (ranges : List ByteRange) : List OpenState :=
  (ranges ++ [continuing]).map fun range => ⟨[], range⟩

theorem close_openRanges_cons (target : Nat) (range : ByteRange) (ranges : List ByteRange)
    (sharing : SharingMachine) :
    Pattern.close target (openRanges (range :: ranges)) sharing =
      (Pattern.close target (openRanges ranges) sharing).2.state 8 [range.1, range.2,
        (Pattern.close target (openRanges ranges) sharing).1] := rfl

theorem Knows.close_nil (knows : Knows target known bytes count sharing) :
    Pattern.close target (openRanges []) sharing = (known, sharing) :=
  SharingMachine.state_of_find?_eq_some knows.found 8

theorem Knows.close_new (knows : Knows target known bytes count sharing)
    (aligned : isAligned range = true) (near : known < target + 16)
    (new : sharing.memory.find? [range.1, range.2, known] = none) :
    ∃ following grown, Pattern.close target (openRanges [range]) sharing = (following, grown) ∧
      Knows target known bytes (count + 1) grown := by
  have above := (knows.kept.of_find? knows.found).2.1
  have added := SharingMachine.state_of_find?_eq_none new 8
  rw [knows.states] at added
  refine ⟨target + 1 + count, _, ?_, knows.add_state aligned above near⟩
  rw [close_openRanges_cons, knows.close_nil]
  exact added

/-- Closing aligned ranges adds at most one state for each. -/
theorem Knows.close {ranges : List ByteRange} (knows : Knows target known bytes count sharing)
    (aligned : ∀ range ∈ ranges, isAligned range = true) (near : count + ranges.length < 16) :
    ∃ more ≤ ranges.length, ∃ following grown,
      Pattern.close target (openRanges ranges) sharing = (following, grown) ∧
      target < following ∧ following ≤ target + (count + more) ∧
      Knows target known bytes (count + more) grown := by
  induction ranges with
  | nil =>
      obtain ⟨_, behind, notBeyond⟩ := knows.kept.of_find? knows.found
      exact ⟨0, Nat.le_refl 0, known, sharing, knows.close_nil, behind, notBeyond, knows⟩
  | cons range ranges inductionHypothesis =>
      rw [List.length_cons] at near
      obtain ⟨more, fewer, following, grown, closed, behind, notBeyond, grownKnows⟩ :=
        inductionHypothesis (fun other member => aligned other (List.mem_cons_of_mem range member))
          (by omega)
      obtain ⟨another, one, state, reached, added, stateBehind, stateNotBeyond, reachedKnows⟩ :=
        grownKnows.state (aligned range List.mem_cons_self) behind (by omega)
      rw [Nat.add_assoc] at stateNotBeyond reachedKnows
      refine ⟨more + another, by rw [List.length_cons]; omega, state, reached, ?_, stateBehind,
        stateNotBeyond, reachedKnows⟩
      rw [close_openRanges_cons, closed]
      exact added

/-! ## What begins -/

def readOn (target : Nat) (opened : List OpenState × SharingMachine) (stretches : List ByteStretch) :
    Machine :=
  let ended := stretches.foldl
    (fun (states, sharing) stretch => addStretch target stretch states sharing) opened
  (Pattern.close target ended.1 ended.2).2.machine

theorem readOn_cons (opened : List OpenState × SharingMachine) (stretch : ByteStretch)
    (later : List ByteStretch) :
    readOn target opened (stretch :: later) =
      readOn target (addStretch target stretch opened.1 opened.2) later := rfl

/-- A stretch that begins with other bytes than the one before closes all but the first state. -/
theorem readOn_other {pending first : ByteRange} (other : pending ≠ first)
    {arrows : List (Nat × Nat × Nat)} {inner : List OpenState} {grown : SharingMachine}
    (closed : Pattern.close target inner sharing = (following, grown)) (rest : ByteStretch)
    (later : List ByteStretch) :
    readOn target (⟨arrows, pending⟩ :: inner, sharing) ((first :: rest) :: later) =
      readOn target (⟨arrows ++ [(pending.1, pending.2, following)], first⟩ ::
        rest.map fun range => ⟨[], range⟩, grown) later := by
  rw [readOn_cons, addStretch, if_neg other, closed]
  rfl

theorem readOn_nil {state : OpenState} {inner : List OpenState} {grown : SharingMachine}
    (closed : Pattern.close target inner sharing = (following, grown)) :
    readOn target (state :: inner, sharing) [] =
      (grown.state (8 * (state.settled following).length)
        ((state.settled following).flatMap fun (first, last, target) =>
          [first, last, target])).2.machine := by
  change (Pattern.close target (state :: inner) sharing).2.machine = _
  rw [Pattern.close, closed]

theorem length_flatMap_arrows (arrows : List (Nat × Nat × Nat)) :
    (arrows.flatMap fun (first, last, target) => [first, last, target]).length =
      3 * arrows.length := by
  induction arrows with
  | nil => rfl
  | cons arrow arrows inductionHypothesis =>
      rw [List.flatMap_cons, List.length_append, inductionHypothesis, List.length_cons]
      exact (Nat.add_comm 3 _).trans (Nat.mul_succ 3 _).symm

/-- The first state has several arrows, so it is like none of the others and is added. -/
theorem Knows.size_readOn_nil {pending : ByteRange} {arrows : List (Nat × Nat × Nat)}
    {middle : List ByteRange} (knows : Knows target known bytes count sharing)
    (several : arrows ≠ []) (aligned : ∀ range ∈ middle, isAligned range = true)
    (near : count + middle.length < 16) :
    ∃ more ≤ middle.length,
      (readOn target (⟨arrows, pending⟩ :: openRanges middle, sharing) []).size =
        bytes + 40 * (count + more) + (40 + 8 * arrows.length) := by
  obtain ⟨more, fewer, following, grown, closed, _, _, grownKnows⟩ := knows.close aligned near
  refine ⟨more, fewer, ?_⟩
  have length : (OpenState.settled ⟨arrows, pending⟩ following).length = arrows.length + 1 :=
    List.length_append
  have new : grown.memory.find? ((OpenState.settled ⟨arrows, pending⟩ following).flatMap
      fun (first, last, target) => [first, last, target]) = none := by
    apply grownKnows.kept.find?_eq_none
    intro state isKept
    have three := isKept.1
    have filled := List.length_pos_of_ne_nil several
    rw [length_flatMap_arrows, length] at three
    omega
  rw [readOn_nil closed, SharingMachine.state_of_find?_eq_none new, Machine.size_add,
    grownKnows.size, length]
  omega

/-- A byte form with its first byte, what may follow it, and a continuing byte at the end. -/
def endingStretch (part : ByteRange × List ByteRange) : ByteStretch :=
  part.1 :: (part.2 ++ [continuing])

/-- Stretches with other first bytes than those before add no more than a state for each byte
between the first and the last. -/
theorem Knows.size_readOn {parts : List (ByteRange × List ByteRange)} {pending : ByteRange}
    {arrows : List (Nat × Nat × Nat)} {middle : List ByteRange}
    (knows : Knows target known bytes count sharing) (several : arrows ≠ [])
    (apart : (pending :: parts.map Prod.fst).IsChain (· ≠ ·))
    (aligned : ∀ range ∈ middle ++ parts.flatMap Prod.snd, isAligned range = true)
    (near : count + (middle ++ parts.flatMap Prod.snd).length < 16) :
    ∃ more ≤ (middle ++ parts.flatMap Prod.snd).length,
      (readOn target (⟨arrows, pending⟩ :: openRanges middle, sharing)
          (parts.map endingStretch)).size =
        bytes + 40 * (count + more) + (40 + 8 * (arrows.length + parts.length)) := by
  induction parts generalizing pending arrows middle count sharing with
  | nil =>
      rw [List.flatMap_nil, List.append_nil] at aligned near ⊢
      exact knows.size_readOn_nil several aligned near
  | cons part parts inductionHypothesis =>
      rw [List.flatMap_cons, List.length_append] at near ⊢
      rw [List.flatMap_cons, List.forall_mem_append] at aligned
      rw [List.map_cons, List.isChain_cons_cons] at apart
      obtain ⟨more, fewer, following, grown, closed, _, _, grownKnows⟩ :=
        knows.close aligned.1 (by omega)
      have longer : arrows ++ [(pending.1, pending.2, following)] ≠ [] :=
        List.append_ne_nil_of_right_ne_nil arrows (List.cons_ne_nil _ [])
      obtain ⟨further, few, size⟩ :=
        inductionHypothesis grownKnows longer apart.2 aligned.2 (by omega)
      refine ⟨more + further, by omega, ?_⟩
      rw [List.map_cons, endingStretch, readOn_other apart.1 closed]
      refine size.trans ?_
      rw [List.length_append, List.length_singleton, List.length_cons]
      omega

end Closing

/-! ## The characters of a line -/

/-- What the byte forms of the characters of a line begin with, and what stands between that and the
last byte, behind the first five. -/
def laterParts : List (ByteRange × List ByteRange) :=
  [((0xed, 0xed), [(0x80, 0x9f)]), ((0xee, 0xef), [continuing]),
    ((0xf0, 0xf0), [(0x90, 0xbf), continuing]), ((0xf1, 0xf3), [continuing, continuing]),
    ((0xf4, 0xf4), [(0x80, 0x8f), continuing])]

theorem byteStretches_line :
    byteStretches (.except '\n') =
      [(0x00, 0x09)] :: [(0x0b, 0x7f)] :: endingStretch ((0xc2, 0xdf), []) ::
        endingStretch ((0xe0, 0xe0), [(0xa0, 0xbf)]) ::
          endingStretch ((0xe1, 0xec), [continuing]) :: laterParts.map endingStretch := by
  decide +kernel

section Line

variable (machine : Machine)

/-- The memory of a machine to which only the state for a continuing byte has been added. -/
def firstMemory : Memory :=
  (Memory.ofPlaces 10000).remember [continuing.1, continuing.2, machine.states] (machine.states + 1)

theorem close_first :
    close machine.states (openRanges []) ⟨machine.add 0, .ofPlaces 10000⟩ =
      (machine.states + 1, ⟨(machine.add 0).add 8, firstMemory machine⟩) := by
  have nothing : (Memory.ofPlaces 10000).find? [continuing.1, continuing.2, machine.states] = none :=
    (Memory.holds_ofPlaces 10000 fun _ _ => False).find?_eq_none fun _ isKept => isKept
  exact SharingMachine.state_of_find?_eq_none nothing 8

theorem knows_first :
    Knows machine.states (machine.states + 1) (machine.size + 32) 1
      ⟨(machine.add 0).add 8, firstMemory machine⟩ where
  places := rfl
  states := rfl
  size := by rw [Machine.size_add, Machine.size_add]
  found := Memory.find?_remember _ _ _
  kept := Memory.Holds.remember (Memory.holds_ofPlaces 10000 _)
    ⟨rfl, Nat.lt_succ_self _, Nat.le_refl _⟩

/-- In front of it, the fourth stretch has a range that no stretch before it has. -/
theorem close_second :
    ∃ following grown, close machine.states (openRanges [(0xa0, 0xbf)])
        ⟨(machine.add 0).add 8, firstMemory machine⟩ = (following, grown) ∧
      Knows machine.states (machine.states + 1) (machine.size + 32) 2 grown := by
  have holds : (firstMemory machine).Holds fun purpose _ =>
      purpose = [continuing.1, continuing.2, machine.states] :=
    Memory.Holds.remember (Memory.holds_ofPlaces 10000 _) rfl
  have aligned : isAligned (0xa0, 0xbf) = true := rfl
  refine (knows_first machine).close_new aligned (by omega) (holds.find?_eq_none ?_)
  intro _ same
  exact absurd (List.cons.inj same).1 (by decide)

end Line

theorem growShared_cons (first : ByteRange) (stretches : List ByteStretch) (machine : Machine) :
    growShared ([first] :: stretches) machine =
      readOn machine.states ([⟨[], first⟩], ⟨machine.add 0, .ofPlaces 10000⟩) stretches := rfl

/-- Stretches of a single byte leave nothing open, and each of the others has a first byte of its
own. -/
theorem growShared_eq_readOn {machine : Machine} {first second third fourth fifth inner : ByteRange}
    {following next : Nat} {grown reached : SharingMachine}
    (apart : [first, second, third, fourth, fifth].IsChain (· ≠ ·))
    (closed : close machine.states (openRanges []) ⟨machine.add 0, .ofPlaces 10000⟩ =
      (following, grown))
    (closedNext : close machine.states (openRanges [inner]) grown = (next, reached))
    (middle : List ByteRange) (later : List ByteStretch) :
    growShared ([first] :: [second] :: endingStretch (third, []) :: endingStretch (fourth, [inner]) ::
        endingStretch (fifth, middle) :: later) machine =
      readOn machine.states (⟨[(first.1, first.2, machine.states),
        (second.1, second.2, machine.states), (third.1, third.2, following),
          (fourth.1, fourth.2, next)], fifth⟩ :: openRanges middle, reached) later := by
  simp only [List.isChain_cons_cons] at apart
  refine (growShared_cons first _ machine).trans ?_
  refine (readOn_other apart.1 rfl _ _).trans ?_
  refine (readOn_other apart.2.1 rfl _ _).trans ?_
  refine (readOn_other apart.2.2.1 closed _ _).trans ?_
  exact readOn_other apart.2.2.2.1 closedNext _ _

/-- Two states at least and eleven at most are added beside the one for the first byte. -/
theorem size_growShared_line (machine : Machine) :
    ∃ count, 2 ≤ count ∧ count ≤ 11 ∧
      (growShared (byteStretches (.except '\n')) machine).size =
        machine.size + 32 + 40 * count + 112 := by
  obtain ⟨following, grown, closed, knows⟩ := close_second machine
  have firsts : [((0x00, 0x09) : ByteRange), (0x0b, 0x7f), (0xc2, 0xdf), (0xe0, 0xe0),
      (0xe1, 0xec)].IsChain (· ≠ ·) := by
    decide
  have apart : (((0xe1, 0xec) : ByteRange) :: laterParts.map Prod.fst).IsChain (· ≠ ·) := by
    decide
  have aligned : ∀ range ∈ [continuing] ++ laterParts.flatMap Prod.snd,
      isAligned range = true := by
    decide
  have few : 2 + ([continuing] ++ laterParts.flatMap Prod.snd).length < 16 := by
    decide
  have opened := growShared_eq_readOn firsts (close_first machine) closed [continuing]
    (laterParts.map endingStretch)
  obtain ⟨more, fewer, size⟩ := knows.size_readOn (List.cons_ne_nil _ _) apart aligned few
  refine ⟨2 + more, Nat.le_add_right 2 more, Nat.add_le_add_left fewer 2, ?_⟩
  rw [byteStretches_line]
  exact (congrArg Machine.size opened).trans size

theorem setGrowth_forward {set : CharSet} (beyond : set.isAscii = false) :
    setGrowth .forward set = .varying (growShared (byteStretches set)) := by
  rw [setGrowth, beyond]
  rfl

theorem addsAtMost_line : (setGrowth .forward (.except '\n')).AddsAtMost 584 := by
  rw [setGrowth_forward (by decide)]
  apply Growth.addsAtMost_varying
  intro machine
  obtain ⟨count, _, most, size⟩ := size_growShared_line machine
  omega

theorem addsAtLeast_line : (setGrowth .forward (.except '\n')).AddsAtLeast 224 := by
  rw [setGrowth_forward (by decide)]
  apply Growth.addsAtLeast_varying
  intro machine
  obtain ⟨count, fewest, _, size⟩ := size_growShared_line machine
  left
  omega

end ContentBlocking.Pattern
