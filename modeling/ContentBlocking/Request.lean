import ContentBlocking.Rule

/-!
# Requests

A request asks for a resource from a page. Its attributes may be unknown.
-/

namespace ContentBlocking

/-- A request for a resource. An absent attribute is unknown. -/
structure Request where
  /-- The URL of the resource. -/
  url : String
  /-- The URL of the page that asks for it. -/
  page : String
  resourceType : Option ResourceType := none
  loadType : Option LoadType := none
  loadContext : Option LoadContext := none
deriving DecidableEq, Repr

inductive Attribute where
  | resourceType
  | loadType
  | loadContext
deriving DecidableEq, Repr

def Attribute.describe : Attribute → String
  | .resourceType => "resource type"
  | .loadType => "load type"
  | .loadContext => "load context"

/-- A name that stands for no value of an attribute. -/
structure UnknownName where
  kind : Attribute
  name : String
deriving DecidableEq, Repr

def UnknownName.message (unknown : UnknownName) : String :=
  "Unknown " ++ unknown.kind.describe ++ ": '" ++ unknown.name ++ "'"

def Attribute.read {α : Type} (kind : Attribute) (ofName? : String → Option α) :
    Option String → Except UnknownName (Option α)
  | none => .ok none
  | some name =>
      match ofName? name with
      | some value => .ok (some value)
      | none => .error ⟨kind, name⟩

/-- The request with attributes given by name. The first unknown name is reported. -/
def Request.ofNames (url page : String) (resourceType loadType loadContext : Option String) :
    Except UnknownName Request := do
  let resourceType ← Attribute.resourceType.read ResourceType.ofName? resourceType
  let loadType ← Attribute.loadType.read LoadType.ofName? loadType
  let loadContext ← Attribute.loadContext.read LoadContext.ofName? loadContext
  return { url, page, resourceType, loadType, loadContext }

end ContentBlocking
