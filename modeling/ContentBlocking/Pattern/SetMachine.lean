import Std.Data.HashMap
import ContentBlocking.Pattern.ByteForm
import ContentBlocking.Pattern.Machine

/-!
# Machines for sets of characters

A machine that reads one character of a set reads its byte form. States from which the same follows
are shared, as far as they are remembered: a memory has so many places, each of which holds the last
state that belongs there. From the front, what may follow is shared, and from the back, what has
been left out in front.
-/

namespace ContentBlocking.Pattern

open ContentBlocking.Text

inductive Direction where
  | forward
  | backward
deriving DecidableEq, Repr

/-! ## Remembered states -/

/-- States with what they are for, by their places. -/
structure Memory where
  /-- The number of places. -/
  places : Nat
  kept : Std.HashMap Nat (List Nat × Nat)

namespace Memory

def ofPlaces (places : Nat) : Memory := ⟨places, ∅⟩

/-- The place for a state, which is found by multiplying what it is for into a number of 64 bits. -/
def place (memory : Memory) (purpose : List Nat) : Nat :=
  let mixed := purpose.foldl
    (fun mixed number => (mixed ^^^ number.toUInt64) * 1099511628211)
    (14695981039346656037 : UInt64)
  mixed.toNat % memory.places

def find? (memory : Memory) (purpose : List Nat) : Option Nat :=
  match memory.kept[memory.place purpose]? with
  | some (other, state) => if other = purpose then some state else none
  | none => none

/-- Remembers a state in place of the one that was there. -/
def remember (memory : Memory) (purpose : List Nat) (state : Nat) : Memory :=
  { memory with kept := memory.kept.insert (memory.place purpose) (purpose, state) }

/-- The last state that was remembered is found. -/
theorem find?_remember (memory : Memory) (purpose : List Nat) (state : Nat) :
    (memory.remember purpose state).find? purpose = some state := by
  simp [find?, remember, place]

end Memory

/-- A machine together with the states that can be shared. -/
structure SharingMachine where
  machine : Machine
  memory : Memory

/-- The state for something, which is added with links of so many bytes unless it is remembered. -/
def SharingMachine.state (sharing : SharingMachine) (links : Nat) (purpose : List Nat) :
    Nat × SharingMachine :=
  match sharing.memory.find? purpose with
  | some state => (state, sharing)
  | none =>
      let state := sharing.machine.states
      (state, ⟨sharing.machine.add links, sharing.memory.remember purpose state⟩)

/-! ## From the back -/

def addReversed (target : Nat) (sharing : SharingMachine) (stretch : ByteStretch) :
    SharingMachine :=
  let start : Nat × SharingMachine := (target, sharing)
  (stretch.foldl
    (fun (following, sharing) (first, last) => sharing.state 0 [following, first, last]) start).2

def growReversed (stretches : List ByteStretch) (machine : Machine) : Machine :=
  let forked := machine.add (4 * stretches.length)
  let start : SharingMachine := ⟨forked.add 0, .ofPlaces 1000⟩
  (stretches.foldl (addReversed forked.states) start).machine

/-! ## From the front -/

/-- A state to which arrows are still added. Another arrow is without a target until it is known
what follows. -/
structure OpenState where
  /-- The first and the last byte of each arrow and its target. -/
  arrows : List (Nat × Nat × Nat)
  pending : ByteRange
deriving Repr, DecidableEq

/-- The arrows of a state after its pending one has got a target. -/
def OpenState.settled (state : OpenState) (target : Nat) : List (Nat × Nat × Nat) :=
  state.arrows ++ [(state.pending.1, state.pending.2, target)]

/-- Adds open states, of which each is followed by the next one and the last by a given state, and
gives the first of them. -/
def close (target : Nat) : List OpenState → SharingMachine → Nat × SharingMachine
  | [], sharing => (target, sharing)
  | state :: inner, sharing =>
      let (following, sharing) := close target inner sharing
      let arrows := state.settled following
      sharing.state (8 * arrows.length)
        (arrows.flatMap fun (first, last, target) => [first, last, target])

/-- Adds a stretch to open states: it shares those that it has in common with the stretch before,
and the others are closed. -/
def addStretch (target : Nat) :
    ByteStretch → List OpenState → SharingMachine → List OpenState × SharingMachine
  | [], states, sharing => (states, sharing)
  | stretch, [], sharing => (stretch.map fun range => ⟨[], range⟩, sharing)
  | range :: rest, state :: inner, sharing =>
      if state.pending = range then
        let (inner, sharing) := addStretch target rest inner sharing
        (state :: inner, sharing)
      else
        let (following, sharing) := close target inner sharing
        (⟨state.settled following, range⟩ :: rest.map fun range => ⟨[], range⟩, sharing)

def growShared (stretches : List ByteStretch) (machine : Machine) : Machine :=
  let target := machine.states
  let start : List OpenState × SharingMachine := ([], ⟨machine.add 0, .ofPlaces 10000⟩)
  let (states, sharing) := stretches.foldl
    (fun (states, sharing) stretch => addStretch target stretch states sharing) start
  (close target states sharing).2.machine

/-! ## Both -/

/-- What one character of a set adds to a machine. The byte forms are listed once for all copies. -/
def setGrowth (direction : Direction) (set : CharSet) : Growth :=
  if set.isAscii then (Growth.plain 1).append (.arrows set.ranges.length)
  else
    let stretches : Thunk (List ByteStretch) := .mk fun _ => byteStretches set
    .varying fun machine =>
      match direction with
      | .forward => growShared stretches.get machine
      | .backward => growReversed stretches.get machine

end ContentBlocking.Pattern
