import ContentBlocking.Pattern.Parser
import ContentBlocking.Request
import ContentBlocking.Url

/-!
# When a rule is about a request

A trigger matches a request if its filter occurs in the URL of the resource and its restrictions
pass. Page domains are restricted by lists whose entries stand for one domain, or, after a star, for
a domain and what lies below it; either way an entry is compared with every domain to which the page
belongs.
-/

namespace ContentBlocking

/-- The pattern of a URL filter, in which case does not matter. A malformed filter has none. -/
def Pattern.ofFilter? (filter : String) : Option Pattern :=
  ofChars? { ignoreCase := true } filter.toList

namespace Trigger

/-- Whether an entry of a domain list names a domain, perhaps after a star. -/
def entryNames (entry domain : String) : Bool :=
  entry = domain || entry.toList = '*' :: domain.toList

def listed (entries : List String) (domain : String) : Bool :=
  entries.any (fun entry => entryNames entry domain)

/-- Whether a page is not exempted: none of its domains is listed. A page without domains is never
exempted. -/
def passesUnlessDomain (entries pageDomains : Option (List String)) : Bool :=
  match entries, pageDomains with
  | some entries, some domains => !domains.any (listed entries)
  | _, _ => true

/-- Whether a page is included: one of its domains is listed, or there is no list. -/
def passesIfDomain (entries pageDomains : Option (List String)) : Bool :=
  match entries, pageDomains with
  | none, _ => true
  | some _, none => false
  | some entries, some domains => domains.any (listed entries)

/-- Whether a resource type is included. An unknown one is included in no list. -/
def passesResourceType (types : Option (List ResourceType)) (type : Option ResourceType) : Bool :=
  match types, type with
  | none, _ => true
  | some _, none => false
  | some types, some type => types.contains type

/-- Whether the trigger with the given pattern matches a URL on a page with the given domains. A
trigger without pattern matches nothing. -/
def accepts (trigger : Trigger) (pattern : Option Pattern) (url : List Char)
    (pageDomains : Option (List String)) (type : Option ResourceType) : Bool :=
  passesUnlessDomain trigger.unlessDomain pageDomains &&
    passesResourceType trigger.resourceType type &&
    passesIfDomain trigger.ifDomain pageDomains &&
    pattern.any (fun pattern => pattern.occursIn url)

end Trigger

/-- Whether the trigger of a rule matches a resource on a page. Load types and load contexts are
left aside. -/
def Rule.isMatch (rule : Rule) (url page : String) (type : Option ResourceType) : Bool :=
  rule.trigger.accepts (Pattern.ofFilter? rule.trigger.urlFilter) url.toList
    (Url.pageDomains? page) type

def RuleList.matching (rules : List Rule) (url page : String) (type : Option ResourceType) :
    List Nat :=
  rules.zipIdx.filterMap fun (rule, index) =>
    if rule.isMatch url page type then some index else none

end ContentBlocking
