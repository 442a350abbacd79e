import ContentBlocking.Dataset
import ContentBlocking.Rule.Wire

/-!
# Datasets as JSON

Names differ from the fields at a few places: the treatment of a tracker is its `default`, and the
pattern of a rule is its `rule`. The resolved owner of a tracker is not written, because it follows
from the rest.
-/

namespace ContentBlocking

open Json

/-! ## Writing -/

namespace Treatment

def byName : List (String × Treatment) := [("block", .block), ("ignore", .ignore)]

def name : Treatment → String
  | .block => "block"
  | .ignore => "ignore"

def toDocument (treatment : Treatment) : Document := .text treatment.name

end Treatment

def Entity.toDocument (entity : Entity) : Document :=
  .object <|
    Document.member? "displayName" .text entity.displayName ++
    Document.member? "domains" Document.texts entity.domains ++
    Document.member? "prevalence" .number entity.prevalence

def Owner.toDocument (owner : Owner) : Document :=
  .object <|
    Document.member? "name" .text owner.name ++
    Document.member? "displayName" .text owner.displayName ++
    Document.member? "ownedBy" .text owner.ownedBy

def Restriction.toDocument (restriction : Restriction) : Document :=
  .object <|
    Document.member? "domains" Document.texts restriction.domains ++
    Document.member? "types" Document.texts restriction.types

def TrackerRule.toDocument (rule : TrackerRule) : Document :=
  .object <|
    Document.member? "rule" .text rule.pattern ++
    Document.member? "surrogate" .text rule.surrogate ++
    Document.member? "action" Treatment.toDocument rule.action ++
    Document.member? "options" Restriction.toDocument rule.options ++
    Document.member? "exceptions" Restriction.toDocument rule.exceptions

def Tracker.toDocument (tracker : Tracker) : Document :=
  .object <|
    Document.member? "domain" .text tracker.domain ++
    Document.member? "default" Treatment.toDocument tracker.treatment ++
    Document.member? "owner" Owner.toDocument tracker.owner ++
    Document.member? "prevalence" .number tracker.prevalence ++
    Document.member? "subdomains" Document.texts tracker.subdomains ++
    Document.member? "categories" Document.texts tracker.categories ++
    Document.member? "rules" (Document.list TrackerRule.toDocument) tracker.rules

def Json.Document.ofMap {α : Type} (write : α → Document) (map : SortedMap α) : Document :=
  .object (map.entries.map fun (key, value) => (key, write value))

def Dataset.toDocument (dataset : Dataset) : Document :=
  .object <|
    [("trackers", Document.ofMap Tracker.toDocument dataset.trackers),
     ("entities", Document.ofMap Entity.toDocument dataset.entities),
     ("domains", Document.ofMap .text dataset.domains)] ++
    Document.member? "cnames" (Document.ofMap .text) dataset.cnames

/-! ## Reading -/

def Treatment.decode : Decoder Treatment := named Treatment.byName

def Entity.decode : Decoder Entity :=
  record "Entity"
    [.maybe "displayName" text fun entity name => { entity with displayName := name },
     .maybe "domains" (list text) fun entity domains => { entity with domains := domains },
     .maybe "prevalence" float fun entity prevalence => { entity with prevalence := prevalence }]
    {}

def Owner.decode : Decoder Owner :=
  record "Owner"
    [.maybe "name" text fun owner name => { owner with name := name },
     .maybe "displayName" text fun owner name => { owner with displayName := name },
     .maybe "ownedBy" text fun owner name => { owner with ownedBy := name }]
    {}

def Restriction.decode : Decoder Restriction :=
  record "Matching"
    [.maybe "domains" (list text) fun restriction domains =>
       { restriction with domains := domains },
     .maybe "types" (list text) fun restriction types => { restriction with types := types }]
    {}

def TrackerRule.decode : Decoder TrackerRule :=
  record "Rule"
    [.maybe "rule" text fun rule pattern => { rule with pattern := pattern },
     .maybe "surrogate" text fun rule surrogate => { rule with surrogate := surrogate },
     .maybe "action" Treatment.decode fun rule action => { rule with action := action },
     .maybe "options" Restriction.decode fun rule options => { rule with options := options },
     .maybe "exceptions" Restriction.decode fun rule exceptions =>
       { rule with exceptions := exceptions }]
    {}

/-- Decodes a tracker, whose owner is not looked up yet. -/
def Tracker.decode : Decoder Tracker :=
  record "KnownTracker"
    [.maybe "domain" text fun tracker domain => { tracker with domain := domain },
     .maybe "default" Treatment.decode fun tracker treatment =>
       { tracker with treatment := treatment },
     .maybe "owner" Owner.decode fun tracker owner => { tracker with owner := owner },
     .maybe "prevalence" float fun tracker prevalence => { tracker with prevalence := prevalence },
     .maybe "subdomains" (list text) fun tracker subdomains =>
       { tracker with subdomains := subdomains },
     .maybe "categories" (list text) fun tracker categories =>
       { tracker with categories := categories },
     .maybe "rules" (list TrackerRule.decode) fun tracker rules => { tracker with rules := rules }]
    {}

/-- Decodes the parts of a dataset, in which owners are not looked up yet. -/
def Dataset.decodeParts : Decoder Dataset :=
  record "TrackerDataDocument"
    [.needed "trackers" (map Tracker.decode) fun dataset trackers =>
       { dataset with trackers := trackers },
     .needed "entities" (map Entity.decode) fun dataset entities =>
       { dataset with entities := entities },
     .needed "domains" (map text) fun dataset domains => { dataset with domains := domains },
     .maybe "cnames" (map text) fun dataset cnames => { dataset with cnames := cnames }]
    Dataset.empty

/-- The dataset with the owners of all trackers looked up. -/
def Dataset.resolve (dataset : Dataset) : Dataset :=
  .ofParts dataset.trackers dataset.entities dataset.domains dataset.cnames

/-- A dataset read from a text, and what is worth a message about it. -/
structure Dataset.Loaded where
  dataset : Dataset
  events : List Event

def Dataset.load (text : List Symbol) : Decoded Dataset.Loaded := do
  let parts ← decodeText Dataset.decodeParts text
  return ⟨parts.resolve, Dataset.ownerEvents parts.trackers parts.entities⟩

def Dataset.ofString (text : String) : Decoded Dataset :=
  (Dataset.load (Symbol.ofString text)).map Loaded.dataset

def Dataset.problemMessage (problem : Problem) : String :=
  "Malformed tracker data: " ++ problem.message

end ContentBlocking
