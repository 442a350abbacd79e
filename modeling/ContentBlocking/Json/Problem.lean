import ContentBlocking.Json.Value
import ContentBlocking.Number.Binary64
import ContentBlocking.Text.Quoted

/-!
# Problems with JSON texts

Why a text does not describe what it should: the text itself is at fault, or its values do not have
the form that they need.
-/

namespace ContentBlocking.Json

/-- What a value turned out to be. -/
inductive Found where
  | null
  | bool (value : Bool)
  | integer (value : Int)
  | float (value : Binary64)
  | text (value : String)
  | sequence
  | map
  /-- The name alone of a case that needs contents. -/
  | bareName
deriving DecidableEq, Repr

/-- Why a text does not describe what it should. -/
inductive Problem where
  | fault (fault : Fault)
  | invalidType (found : Found) (expected : String)
  | missingField (name : String)
  | duplicateField (name : String)
  | unknownVariant (name : String) (known : List String)
  | invalidLength (length : Nat) (expected : String)
deriving DecidableEq, Repr

def ticked (name : String) : String := "\x60" ++ name ++ "\x60"

def Found.describe : Found → String
  | .null => "null"
  | .bool value => "boolean " ++ ticked (if value then "true" else "false")
  | .integer value => "integer " ++ ticked (toString value)
  | .float value => "floating point " ++ ticked value.text
  | .text value => "string " ++ Text.quoted value
  | .sequence => "sequence"
  | .map => "map"
  | .bareName => "unit variant"

/-- The choice of names in a message. -/
def describeChoice : List String → String
  | [first, second] => ticked first ++ " or " ++ ticked second
  | names => "one of " ++ ", ".intercalate (names.map ticked)

def Fault.message : Fault → String
  | .malformed => "malformed text"
  | .ended => "EOF while parsing a value"
  | .notText => "invalid unicode code point"

def Problem.message : Problem → String
  | .fault cause => cause.message
  | .invalidType found expected => "invalid type: " ++ found.describe ++ ", expected " ++ expected
  | .missingField name => "missing field " ++ ticked name
  | .duplicateField name => "duplicate field " ++ ticked name
  | .unknownVariant name known =>
      "unknown variant " ++ ticked name ++ ", expected " ++ describeChoice known
  | .invalidLength length expected =>
      "invalid length " ++ toString length ++ ", expected " ++ expected

end ContentBlocking.Json
