/-!
# Machines under construction

A pattern is searched by machines that read bytes. A machine consists of states, which are numbered
in the order in which they are added, and of links from state to state. Of a machine under
construction only its size is kept. What a part of a pattern adds may depend on the numbers of its
states, because a state that has been built before is only used again if its number is still
remembered.
-/

namespace ContentBlocking.Pattern

/-- The size of a machine. -/
structure Machine where
  /-- The number of states. The next state that is added has this number. -/
  states : Nat
  /-- The bytes that all links take. -/
  links : Nat
deriving Repr, DecidableEq

namespace Machine

def empty : Machine := ⟨0, 0⟩

def size (machine : Machine) : Nat := 32 * machine.states + machine.links

def sizeLimit : Nat := 10485760

/-- Whether a machine takes too many bytes. What has become too large stays too large, since states
are added and never taken away. -/
def isTooLarge (machine : Machine) : Bool := sizeLimit < machine.size

def append (machine other : Machine) : Machine :=
  ⟨machine.states + other.states, machine.links + other.links⟩

theorem size_append (machine other : Machine) :
    (machine.append other).size = machine.size + other.size := by
  simp only [append, size]
  omega

def copies (count : Nat) (machine : Machine) : Machine :=
  ⟨count * machine.states, count * machine.links⟩

def add (links : Nat) (machine : Machine) : Machine := machine.append ⟨1, links⟩

end Machine

/-- What a part of a pattern adds to a machine. -/
inductive Growth where
  /-- The same for every machine. -/
  | fixed (part : Machine)
  /-- Something that depends on the states that are already there. -/
  | varying (grow : Machine → Machine)

namespace Growth

/-- Adds to a machine. What depends on the states there is left out if they are too many already. -/
def applyTo : Growth → Machine → Machine
  | fixed part, machine => machine.append part
  | varying grow, machine => if machine.isTooLarge then machine else grow machine

def none : Growth := fixed .empty

def plain (states : Nat) : Growth := fixed ⟨states, 0⟩

/-- A state that leads somewhere on several ranges of bytes. -/
def arrows (count : Nat) : Growth := fixed ⟨1, 8 * count⟩

/-- A state from which several ways lead on. -/
def fork (branches : Nat) : Growth := fixed ⟨1, 4 * branches⟩

def append : Growth → Growth → Growth
  | fixed first, fixed second => fixed (first.append second)
  | first, second => varying fun machine => second.applyTo (first.applyTo machine)

def inTurn (parts : List Growth) : Growth := parts.foldl append none

/-- Adds to a machine so many times. Nothing is added any more to a machine that is too large. -/
def repeatOn (grow : Machine → Machine) : Nat → Machine → Machine
  | 0, machine => machine
  | count + 1, machine =>
      if machine.isTooLarge then machine else repeatOn grow count (grow machine)

def copies (count : Nat) : Growth → Growth
  | fixed part => fixed (part.copies count)
  | varying grow => varying (repeatOn grow count)

end Growth

end ContentBlocking.Pattern
