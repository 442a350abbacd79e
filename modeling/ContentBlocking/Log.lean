/-!
# Log messages

What happens on the way that is no error.
-/

namespace ContentBlocking

inductive Level where
  | debug
  | info
  | warn
deriving DecidableEq, Repr

def Level.name : Level → String
  | .debug => "DEBUG"
  | .info => "INFO"
  | .warn => "WARN"

/-- Something worth a message. -/
inductive Event where
  /-- The owner of a tracker has no entity. -/
  | ownerWithoutEntity (tracker owner : String)
  /-- A rule of a tracker has no pattern. -/
  | ruleWithoutPattern (tracker : Option String)
  /-- The target of an alias belongs to no tracker. -/
  | aliasWithoutTracker (name target : String)
  /-- The rules of a list by where they come from. -/
  | segmentsBuilt (trackerRules cnameRules overrideRules removed : Nat)
  /-- A list has been built. -/
  | listBuilt (rules : Nat)
deriving DecidableEq, Repr

def Event.level : Event → Level
  | .ruleWithoutPattern _ => .warn
  | .listBuilt _ => .info
  | _ => .debug

def Event.message : Event → String
  | .ownerWithoutEntity tracker owner =>
      "tracker " ++ tracker ++ " owner '" ++ owner ++ "' has no entity; no related domains"
  | .ruleWithoutPattern tracker =>
      "skipping rule without pattern in tracker " ++ tracker.getD "<unknown>"
  | .aliasWithoutTracker name target =>
      "cname " ++ name ++ " -> " ++ target ++ " matches no tracker"
  | .segmentsBuilt trackerRules cnameRules overrideRules removed =>
      "built " ++ toString trackerRules ++ " tracker rules, " ++ toString cnameRules ++
        " cname rules, " ++ toString overrideRules ++ " override rules (" ++ toString removed ++
        " duplicates removed)"
  | .listBuilt rules => "built " ++ toString rules ++ " content blocker rules"

def Event.line (event : Event) : String := event.level.name ++ " " ++ event.message

end ContentBlocking
