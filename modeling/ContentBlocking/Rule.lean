/-!
# Content-blocker rules

A rule names the requests that trigger it and what happens to them. In a list of rules the later
ones override the earlier ones, so a rule may also cancel what was decided before it.
-/

namespace ContentBlocking

inductive ResourceType where
  | document
  | image
  | styleSheet
  | script
  | font
  | raw
  | svgDocument
  | media
  | popup
deriving DecidableEq, Repr

/-- Whether a request stays on the site of its page. -/
inductive LoadType where
  | firstParty
  | thirdParty
deriving DecidableEq, Repr

/-- The frame from which a request is made. -/
inductive LoadContext where
  | topFrame
  | childFrame
deriving DecidableEq, Repr

namespace ResourceType

def byName : List (String × ResourceType) :=
  [("document", .document), ("image", .image), ("style-sheet", .styleSheet),
   ("script", .script), ("font", .font), ("raw", .raw), ("svg-document", .svgDocument),
   ("media", .media), ("popup", .popup)]

def name : ResourceType → String
  | .document => "document"
  | .image => "image"
  | .styleSheet => "style-sheet"
  | .script => "script"
  | .font => "font"
  | .raw => "raw"
  | .svgDocument => "svg-document"
  | .media => "media"
  | .popup => "popup"

def ofName? (name : String) : Option ResourceType := byName.lookup name

/-- The resource type for a tag of tracker data. Other tags stand for no resource type. -/
def ofTag? (tag : String) : Option ResourceType :=
  [("script", script), ("xmlhttprequest", raw), ("subdocument", document), ("image", image),
   ("stylesheet", styleSheet)].lookup tag

/-- The resource types for tags; tags without one are dropped. -/
def ofTags (tags : List String) : List ResourceType := tags.filterMap ofTag?

def rank : ResourceType → Nat := ResourceType.ctorIdx

def sorted (types : List ResourceType) : List ResourceType :=
  types.mergeSort (fun left right => left.rank ≤ right.rank)

end ResourceType

namespace LoadType

def byName : List (String × LoadType) :=
  [("first-party", .firstParty), ("third-party", .thirdParty)]

def name : LoadType → String
  | .firstParty => "first-party"
  | .thirdParty => "third-party"

def ofName? (name : String) : Option LoadType := byName.lookup name

end LoadType

namespace LoadContext

def byName : List (String × LoadContext) :=
  [("top-frame", .topFrame), ("child-frame", .childFrame)]

def name : LoadContext → String
  | .topFrame => "top-frame"
  | .childFrame => "child-frame"

def ofName? (name : String) : Option LoadContext := byName.lookup name

end LoadContext

/-- The requests that a rule is about. An absent list does not restrict them. -/
structure Trigger where
  /-- A pattern that has to occur in the URL of the resource, whatever the case. -/
  urlFilter : String
  unlessDomain : Option (List String) := none
  ifDomain : Option (List String) := none
  resourceType : Option (List ResourceType) := none
  loadType : Option (List LoadType) := none
  loadContext : Option (List LoadContext) := none
deriving DecidableEq, Repr

/-- What a rule does to the requests it is about. -/
inductive Action where
  /-- Blocks the request. -/
  | block
  /-- Cancels all that earlier rules decided. -/
  | ignorePreviousRules
  /-- Hides the elements of the page that a selector names. -/
  | cssDisplayNone (selector : String)
deriving DecidableEq, Repr

structure Rule where
  trigger : Trigger
  action : Action
deriving DecidableEq, Repr

namespace Rule

def block (trigger : Trigger) : Rule := ⟨trigger, .block⟩

/-- The rule that cancels earlier decisions about what triggers it. -/
def ignorePrevious (trigger : Trigger) : Rule := ⟨trigger, .ignorePreviousRules⟩

end Rule

end ContentBlocking
