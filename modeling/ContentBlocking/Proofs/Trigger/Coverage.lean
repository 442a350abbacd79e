import ContentBlocking.Filter
import ContentBlocking.Pattern.Occurrence
import ContentBlocking.RuleList.Replay

/-!
# Requests that a trigger covers

`Trigger.Covers` says when a trigger is about a request: its filter matches the URL of the resource,
and each of its lists is absent or admits the request. Patterns that were read before and page
domains that were found before do not occur in it. The check that a replay makes is equal to it.
-/

namespace ContentBlocking

/-- A filter matches a URL if it is well formed and its pattern occurs in the URL. -/
def Filter.Matches (filter url : String) : Prop :=
  ∃ pattern, Pattern.ofFilter? filter = some pattern ∧ pattern.OccursIn url.toList

theorem Filter.any_occursIn_iff {filter url : String} :
    (Pattern.ofFilter? filter).any
        (fun pattern => pattern.occursIn url.toList) = true ↔
      Filter.Matches filter url := by
  rw [Option.any_eq_true]
  constructor
  · intro ⟨pattern, read, occurs⟩
    exact ⟨pattern, read, Pattern.occursIn_iff.mp occurs⟩
  · intro ⟨pattern, read, occurs⟩
    exact ⟨pattern, read, Pattern.occursIn_iff.mpr occurs⟩

instance (filter url : String) : Decidable (Filter.Matches filter url) :=
  decidable_of_iff _ Filter.any_occursIn_iff

/-- What a filter matches is described by the tree that it is read into. -/
theorem Filter.Matches.any_written {filter url : String} (matched : Filter.Matches filter url) :
    (Pattern.Written.ofChars? { ignoreCase := true } filter.toList).any
      (fun tree => tree.toPattern.occursIn url.toList) = true := by
  obtain ⟨pattern, read, occurs⟩ := matched
  rw [Pattern.ofFilter?, Pattern.ofChars?] at read
  cases written : Pattern.Written.ofChars? { ignoreCase := true } filter.toList with
  | none =>
      rw [written] at read
      cases read
  | some tree =>
      have fits : (if tree.outline.fits then some tree.toPattern else none) = some pattern := by
        rw [written] at read
        exact read
      split at fits
      · cases fits
        exact Pattern.occursIn_iff.mpr occurs
      · cases fits

theorem Filter.wildcard_injective {left right : String}
    (equality : Filter.wildcard left = Filter.wildcard right) :
    left = right := by
  have characters := congrArg String.toList equality
  simp only [Filter.wildcard, String.toList_append] at characters
  exact String.toList_inj.mp (List.append_cancel_left characters)

/-! ## The page of a request -/

namespace Request

/-- The domains to which the page belongs, longest first. -/
def pageDomains (request : Request) : List String :=
  (Url.pageDomains? request.page).getD []

/-- An entry of the list names a domain of the page, perhaps after a star. -/
def IsListed (request : Request) (entries : List String) : Prop :=
  ∃ domain ∈ request.pageDomains,
    ∃ entry ∈ entries, entry = domain ∨ entry = Filter.wildcard domain

/-- A domain of the page is one of the given domains, or one of them after a star. -/
def IsWithin (request : Request) (domains : List String) : Prop :=
  ∃ domain ∈ request.pageDomains,
    domain ∈ domains ∨ ∃ given ∈ domains, domain = Filter.wildcard given

theorem isListed_append {request : Request} {entries others : List String} :
    request.IsListed (entries ++ others) ↔
      request.IsListed entries ∨ request.IsListed others := by
  constructor
  · intro ⟨domain, member, entry, entryMember, named⟩
    rcases List.mem_append.mp entryMember with first | second
    · exact Or.inl ⟨domain, member, entry, first, named⟩
    · exact Or.inr ⟨domain, member, entry, second, named⟩
  · intro either
    rcases either with ⟨domain, member, entry, entryMember, named⟩ |
      ⟨domain, member, entry, entryMember, named⟩
    · exact ⟨domain, member, entry, List.mem_append_left others entryMember, named⟩
    · exact ⟨domain, member, entry, List.mem_append_right entries entryMember, named⟩

/-- A list of starred domains lists the pages within these domains. -/
theorem isListed_wildcards {request : Request} {domains : List String} :
    request.IsListed (Filter.wildcards domains) ↔ request.IsWithin domains := by
  constructor
  · intro ⟨domain, member, entry, entryMember, named⟩
    obtain ⟨given, givenMember, rfl⟩ := List.mem_map.mp entryMember
    rcases named with spelled | starred
    · exact ⟨domain, member, Or.inr ⟨given, givenMember, spelled.symm⟩⟩
    · have same : given = domain := Filter.wildcard_injective starred
      exact ⟨domain, member, Or.inl (same ▸ givenMember)⟩
  · intro ⟨domain, member, within⟩
    rcases within with given | ⟨given, givenMember, starred⟩
    · exact ⟨domain, member, Filter.wildcard domain,
        List.mem_map_of_mem given, Or.inr rfl⟩
    · exact ⟨domain, member, Filter.wildcard given,
        List.mem_map_of_mem givenMember, Or.inl starred.symm⟩

end Request

theorem Trigger.entryNames_iff {entry domain : String} :
    Trigger.entryNames entry domain = true ↔
      entry = domain ∨ entry = Filter.wildcard domain := by
  have starred :
      entry.toList = '*' :: domain.toList ↔ entry = Filter.wildcard domain := by
    rw [← String.toList_inj, Filter.wildcard, String.toList_append]
    exact Iff.rfl
  rw [Trigger.entryNames, Bool.or_eq_true, decide_eq_true_eq, decide_eq_true_eq, starred]

theorem Trigger.any_listed_iff {request : Request} {entries : List String} :
    request.pageDomains.any (Trigger.listed entries) = true ↔
      request.IsListed entries := by
  simp only [List.any_eq_true, Trigger.listed, Trigger.entryNames_iff, Request.IsListed]

instance (request : Request) (entries : List String) :
    Decidable (request.IsListed entries) :=
  decidable_of_iff _ Trigger.any_listed_iff

/-! ## Lists of a trigger -/

namespace Trigger

/-- A list of pages asks whether a domain of the page is listed. A page without domains is not. -/
theorem passesIfDomain_some {request : Request} {list : List String} :
    passesIfDomain (some list) (Url.pageDomains? request.page) =
      request.pageDomains.any (listed list) := by
  unfold Request.pageDomains
  cases Url.pageDomains? request.page <;> rfl

theorem passesUnlessDomain_some {request : Request} {list : List String} :
    passesUnlessDomain (some list) (Url.pageDomains? request.page) =
      !request.pageDomains.any (listed list) := by
  unfold Request.pageDomains
  cases Url.pageDomains? request.page <;> rfl

theorem passesIfDomain_iff {request : Request} {entries : Option (List String)} :
    passesIfDomain entries (Url.pageDomains? request.page) = true ↔
      ∀ list ∈ entries, request.IsListed list := by
  cases entries with
  | none => simp [passesIfDomain]
  | some list =>
      rw [passesIfDomain_some, any_listed_iff]
      simp

theorem passesUnlessDomain_iff {request : Request} {entries : Option (List String)} :
    passesUnlessDomain entries (Url.pageDomains? request.page) = true ↔
      ∀ list ∈ entries, ¬ request.IsListed list := by
  cases entries with
  | none => simp [passesUnlessDomain]
  | some list =>
      rw [passesUnlessDomain_some, Bool.not_eq_true', ← Bool.not_eq_true, any_listed_iff]
      simp

theorem passesResourceType_iff {types : Option (List ResourceType)}
    {type : Option ResourceType} :
    passesResourceType types type = true ↔
      ∀ list ∈ types, ∃ known ∈ type, known ∈ list := by
  cases types with
  | none => simp [passesResourceType]
  | some list =>
      cases type with
      | none => simp [passesResourceType]
      | some known => simp [passesResourceType]

theorem passesIfKnown_iff {α : Type} [BEq α] [LawfulBEq α]
    {allowed : Option (List α)} {value : Option α} :
    passesIfKnown allowed value = true ↔
      ∀ list ∈ allowed, ∀ known ∈ value, known ∈ list := by
  cases allowed with
  | none => simp [passesIfKnown]
  | some list =>
      cases value with
      | none => simp [passesIfKnown]
      | some known => simp [passesIfKnown]

/-- The requests that a trigger is about. An absent list admits every request. An unknown load type
or load context is admitted by every list, an unknown resource type by none. -/
structure Covers (trigger : Trigger) (request : Request) : Prop where
  url : Filter.Matches trigger.urlFilter request.url
  loadType : ∀ list ∈ trigger.loadType, ∀ known ∈ request.loadType, known ∈ list
  loadContext : ∀ list ∈ trigger.loadContext, ∀ known ∈ request.loadContext, known ∈ list
  unlessDomain : ∀ list ∈ trigger.unlessDomain, ¬ request.IsListed list
  ifDomain : ∀ list ∈ trigger.ifDomain, request.IsListed list
  resourceType : ∀ list ∈ trigger.resourceType, ∃ known ∈ request.resourceType, known ∈ list

end Trigger

def Rule.prepared (rule : Rule) : PreparedRule :=
  ⟨rule, Pattern.ofFilter? rule.trigger.urlFilter⟩

/-- A rule whose filter has been read applies to the requests that its trigger covers. -/
theorem Rule.applies_prepared_iff {rule : Rule} {request : Request} :
    rule.prepared.applies request request.url.toList (Url.pageDomains? request.page) = true ↔
      rule.trigger.Covers request := by
  simp only [PreparedRule.applies, Rule.prepared, Trigger.accepts, Bool.and_eq_true,
    Trigger.passesUnlessDomain_iff, Trigger.passesIfDomain_iff, Trigger.passesResourceType_iff,
    Trigger.passesIfKnown_iff, Filter.any_occursIn_iff]
  constructor
  · intro ⟨⟨loadType, loadContext⟩, ⟨⟨unlessDomain, resourceType⟩, ifDomain⟩, url⟩
    exact ⟨url, loadType, loadContext, unlessDomain, ifDomain, resourceType⟩
  · intro covers
    exact ⟨⟨covers.loadType, covers.loadContext⟩,
      ⟨⟨covers.unlessDomain, covers.resourceType⟩, covers.ifDomain⟩, covers.url⟩

-- What the rule does is of no concern to its trigger, so any action will do here.
instance (trigger : Trigger) (request : Request) : Decidable (trigger.Covers request) :=
  decidable_of_iff _ (@Rule.applies_prepared_iff (Rule.block trigger) request)

end ContentBlocking
