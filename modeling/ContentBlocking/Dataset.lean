import ContentBlocking.Log
import ContentBlocking.Number.Binary64
import ContentBlocking.SortedMap
import ContentBlocking.Url

/-!
# Tracker datasets

A dataset lists trackers by domain, the entities that own them, the entity of each domain, and
aliases under which trackers are reached. A tracker names its owner; whether the owner is one of the
entities is settled once, when the dataset is put together.
-/

namespace ContentBlocking

/-- A company and the domains that belong to it. -/
structure Entity where
  displayName : Option String := none
  domains : Option (List String) := none
  prevalence : Option Binary64 := none
deriving DecidableEq, Repr

/-- The owner of a tracker as the tracker has it. -/
structure Owner where
  name : Option String := none
  displayName : Option String := none
  /-- The company to which the owner itself belongs. -/
  ownedBy : Option String := none
deriving DecidableEq, Repr

/-- What happens to the requests of a tracker. -/
inductive Treatment where
  | block
  | ignore
deriving DecidableEq, Repr

/-- A restriction to page domains and to tags of resources. -/
structure Restriction where
  domains : Option (List String) := none
  types : Option (List String) := none
deriving DecidableEq, Repr

structure TrackerRule where
  /-- The pattern of the URLs. -/
  pattern : Option String := none
  surrogate : Option String := none
  action : Option Treatment := none
  /-- Where the rule holds. -/
  options : Option Restriction := none
  /-- Where the rule does not hold. -/
  exceptions : Option Restriction := none
deriving DecidableEq, Repr

structure Tracker where
  domain : Option String := none
  /-- What happens to the requests about which no rule says otherwise. -/
  treatment : Option Treatment := none
  owner : Option Owner := none
  prevalence : Option Binary64 := none
  subdomains : Option (List String) := none
  categories : Option (List String) := none
  rules : Option (List TrackerRule) := none
  /-- The name of the owner if it is an entity of the dataset. -/
  resolvedOwner : Option String := none
deriving DecidableEq, Repr

namespace Tracker

/-- Whether requests are blocked unless a rule says otherwise. -/
def isBlocking (tracker : Tracker) : Bool := tracker.treatment = some .block

def ownerName (tracker : Tracker) : Option String := tracker.owner.bind Owner.name

def withDomain (tracker : Tracker) (domain : String) : Tracker :=
  { tracker with domain := some domain }

def shownCategories : List String := ["Analytics", "Advertising", "Social Network"]

/-- The first category of a tracker that is shown. -/
def category (tracker : Tracker) : Option String :=
  (tracker.categories.getD []).find? shownCategories.contains

/-- Trackers with the same domain count as the same tracker, whatever else they say. -/
def sameDomain (left right : Tracker) : Bool := left.domain = right.domain

end Tracker

structure Dataset where
  trackers : SortedMap Tracker
  entities : SortedMap Entity
  /-- The name of the entity to which a domain belongs. -/
  domains : SortedMap String
  /-- The host behind an alias. -/
  cnames : Option (SortedMap String)
deriving DecidableEq, Repr

structure Stats where
  trackers : Nat
  domains : Nat
  cnames : Nat
  entities : Nat
  /-- The trackers whose owner has a name but no entity. -/
  unresolvedOwners : Nat
deriving DecidableEq, Repr

namespace Dataset

def empty : Dataset := ⟨∅, ∅, ∅, none⟩

/-- A tracker whose owner is looked up among entities. -/
def resolveOwner (entities : SortedMap Entity) (tracker : Tracker) : Tracker :=
  { tracker with resolvedOwner := tracker.ownerName.filter entities.contains }

/-- The dataset with the given parts, in which the owners of all trackers are looked up. -/
def ofParts (trackers : SortedMap Tracker) (entities : SortedMap Entity)
    (domains : SortedMap String) (cnames : Option (SortedMap String)) : Dataset :=
  ⟨trackers.mapEntries (fun _ tracker => resolveOwner entities tracker), entities, domains, cnames⟩

/-- The trackers whose owners have no entity, each with the name of its owner. -/
def ownerEvents (trackers : SortedMap Tracker) (entities : SortedMap Entity) : List Event :=
  trackers.entries.filterMap fun (key, tracker) =>
    (tracker.ownerName.filter (fun owner => !entities.contains owner)).map
      (.ownerWithoutEntity key)

def entityOf? (dataset : Dataset) (tracker : Tracker) : Option Entity :=
  tracker.resolvedOwner.bind dataset.entities.get?

def relatedDomains? (dataset : Dataset) (tracker : Tracker) : Option (List String) :=
  (dataset.entityOf? tracker).bind Entity.domains

/-- The key of the tracker to which a host belongs, and the tracker. While there is a dot, the host
itself is looked up first, then what remains without its first label and without empty ones. -/
def findFrom (dataset : Dataset) (host : List Char) : Option (String × Tracker) :=
  if _dotted : '.' ∈ host then
    match dataset.trackers.get? (String.ofList host) with
    | some tracker => some (String.ofList host, tracker)
    | none => dataset.findFrom (Url.dropLabel host)
  else none
termination_by host.length
decreasing_by exact Url.length_dropLabel_lt _dotted

/-- The key of the tracker to which a host belongs, and the tracker. -/
def findEntry? (dataset : Dataset) (host : String) : Option (String × Tracker) :=
  dataset.findFrom host.toList

def findTracker? (dataset : Dataset) (host : String) : Option Tracker :=
  (dataset.findEntry? host).map Prod.snd

def aliases (dataset : Dataset) : List (String × String) :=
  (dataset.cnames.map SortedMap.entries).getD []

/-- Whether the owner of a tracker has a name but no entity. -/
def ownerUnresolved (tracker : Tracker) : Bool :=
  tracker.ownerName.isSome && tracker.resolvedOwner.isNone

def stats (dataset : Dataset) : Stats where
  trackers := dataset.trackers.size
  domains := dataset.domains.size
  cnames := dataset.aliases.length
  entities := dataset.entities.size
  unresolvedOwners := dataset.trackers.values.countP ownerUnresolved

/-! ## Sameness -/

/-- Whether two optional numbers are both absent or have the same value. -/
def samePrevalence : Option Binary64 → Option Binary64 → Bool
  | none, none => true
  | some left, some right => left.sameValue right
  | _, _ => false

def sameEntity (left right : Entity) : Bool :=
  left.displayName = right.displayName && left.domains = right.domains &&
    samePrevalence left.prevalence right.prevalence

/-- Whether two datasets agree, where trackers are compared by their keys and domains only. -/
def same (left right : Dataset) : Bool :=
  left.trackers.agree Tracker.sameDomain right.trackers &&
    left.entities.agree sameEntity right.entities &&
    left.domains = right.domains && left.cnames = right.cnames

/-! ## Changes -/

def addTracker (dataset : Dataset) (key : String) (tracker : Tracker) : Dataset :=
  ofParts (dataset.trackers.insert key tracker) dataset.entities dataset.domains dataset.cnames

/-- The dataset with an entity added, replaced or removed. -/
def setEntity (dataset : Dataset) (key : String) (entity : Option Entity) : Dataset :=
  let entities :=
    match entity with
    | some entity => dataset.entities.insert key entity
    | none => dataset.entities.erase key
  ofParts dataset.trackers entities dataset.domains dataset.cnames

def addAlias (dataset : Dataset) (name target : String) : Dataset :=
  ofParts dataset.trackers dataset.entities dataset.domains
    (some ((dataset.cnames.getD ∅).insert name target))

end Dataset

end ContentBlocking
