import ContentBlocking.Text.CharSet.Distances

/-!
# Sets of characters with names

The values of a property of characters are listed with their names. Names are compared in a normal
form: in lower case and without separators.
-/

namespace ContentBlocking.Text

structure NamedSet where
  names : List String
  /-- The distances between the bounds of the set. -/
  distances : String

namespace NamedSet

def set (entry : NamedSet) : CharSet := .ofDistances entry.distances

def find? (table : List NamedSet) (name : String) : Option CharSet :=
  (table.find? fun entry => entry.names.contains name).map set

/-- The set with a name; without members if there is none. -/
def get (table : List NamedSet) (name : String) : CharSet := (find? table name).getD .none

def getAll (table : List NamedSet) (names : List String) : CharSet :=
  .unionAll (names.map (get table))

/-- The union of all sets up to the one with a name. -/
def upTo? (table : List NamedSet) (name : String) : Option CharSet :=
  match table with
  | [] => none
  | entry :: rest =>
      if entry.names.contains name then some entry.set
      else (upTo? rest name).map entry.set.union

end NamedSet

end ContentBlocking.Text
