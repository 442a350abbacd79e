import ContentBlocking.Filter
import ContentBlocking.Rule.Wire

/-!
# Overrides

Protection can be switched off for whole sites and for single resources of trackers. The rules that
do so cancel what earlier rules decided, so they belong at the end of a list.
-/

namespace ContentBlocking

/-- Where an entry of an allowlist holds. -/
inductive Reach where
  /-- On every page. -/
  | all
  /-- On the pages of these domains and of what lies below them. -/
  | domains (domains : List String)
  /-- Nowhere. -/
  | none
deriving DecidableEq, Repr

/-- An entry of an allowlist: a domain of a tracker, perhaps with a path, and the pages on which it
is allowed. -/
structure AllowlistEntry where
  rule : String
  reach : Reach
deriving DecidableEq, Repr

/-- Where and for what protection is switched off. -/
structure Overrides where
  /-- Entries of a domain list, taken as they are. -/
  exceptions : Option (List String) := none
  /-- Domains that are unprotected together with what lies below them. -/
  unprotected : Option (List String) := none
  allowlist : List AllowlistEntry := []
deriving DecidableEq, Repr

def Overrides.loadTypes : List LoadType := [.firstParty, .thirdParty]

/-- The rule for an entry of an allowlist. An entry that holds nowhere has none. -/
def AllowlistEntry.toRule? (entry : AllowlistEntry) : Option Rule :=
  let trigger : Trigger :=
    { urlFilter := Filter.ofAllowlistEntry entry.rule, loadType := some Overrides.loadTypes }
  match entry.reach with
  | .all => some (.ignorePrevious trigger)
  | .domains domains =>
      some (.ignorePrevious { trigger with ifDomain := some (Filter.wildcards domains) })
  | .none => Option.none

namespace Overrides

def pageEntries (overrides : Overrides) : List String :=
  overrides.exceptions.getD [] ++ Filter.wildcards (overrides.unprotected.getD [])

/-- The rule that switches protection off on whole pages, if there are any. -/
def pageRules (overrides : Overrides) : List Rule :=
  if overrides.pageEntries.isEmpty then []
  else
    [.ignorePrevious
      { urlFilter := ".*", ifDomain := some overrides.pageEntries, loadType := some loadTypes }]

def toRules (overrides : Overrides) : List Rule :=
  overrides.pageRules ++ overrides.allowlist.filterMap AllowlistEntry.toRule?

end Overrides

/-! ## Allowlists as JSON -/

open Json

def Reach.toDocument : Reach → Document
  | .all => .text "all"
  | .domains pages => .object [("domains", Document.texts pages)]
  | .none => .text "none"

def AllowlistEntry.toDocument (entry : AllowlistEntry) : Document :=
  .object [("rule", .text entry.rule), ("matching", entry.reach.toDocument)]

def Allowlist.toDocument (entries : List AllowlistEntry) : Document :=
  Document.list AllowlistEntry.toDocument entries

def Reach.decode : Decoder Reach :=
  choice
    [("all", .bare .all),
     ("domains", .filled fun value => (list text value).map Reach.domains),
     ("none", .bare .none)]

def AllowlistEntry.decode : Decoder AllowlistEntry :=
  record "TrackerException"
    [.needed "rule" text fun entry rule => { entry with rule := rule },
     .needed "matching" Reach.decode fun entry reach => { entry with reach := reach }]
    ⟨"", .none⟩

def Allowlist.decode : Decoder (List AllowlistEntry) := list AllowlistEntry.decode

end ContentBlocking
