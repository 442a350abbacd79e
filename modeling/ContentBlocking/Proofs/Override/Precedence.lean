import ContentBlocking.Compile.Build
import ContentBlocking.Proofs.Pattern.OutlineBound
import ContentBlocking.Proofs.RuleList.Decision

/-!
# Overrides go before all other rules

Overrides stand at the end of a rule list and do nothing but ignore previous rules, whatever the
load type. So a request is allowed if an override frees it, and otherwise if the rules of the
trackers allow it. The filter for whole pages has to match every URL, even an empty one or one with
line feeds.
-/

namespace ContentBlocking

open Text Pattern

/-! ## The filter for every URL -/

/-- The filter is read as any number of characters, and none are found in front of every URL. -/
theorem Filter.matches_everything (url : String) :
    Filter.Matches ".*" url := by
  have written : Written.ofChars? { ignoreCase := true } ".*".toList =
      some (.repetition (.set .unicode (.except '\n')) ⟨0, none, false⟩) := by
    with_unfolding_all rfl
  rw [Filter.matches_iff_of_written written (by decide +kernel)]
  exact ⟨[], [], url.toList, rfl, Spans.left Spans.empty⟩

/-! ## What overrides free -/

/-- An entry of a domain list names a domain of the page, or the page is within an unprotected
domain. -/
def Overrides.FreesPage (overrides : Overrides) (request : Request) : Prop :=
  request.IsListed (overrides.exceptions.getD []) ∨
    request.IsWithin (overrides.unprotected.getD [])

/-- The pages of requests on which an entry of an allowlist holds. -/
def Reach.Includes (request : Request) : Reach → Prop
  | .all => True
  | .domains pages => request.IsWithin pages
  | .none => False

/-- An entry of an allowlist frees what its filter matches on the pages on which it holds. -/
def AllowlistEntry.Frees (entry : AllowlistEntry) (request : Request) : Prop :=
  Filter.Matches (Filter.ofAllowlistEntry entry.rule) request.url ∧ entry.reach.Includes request

/-- Some override frees the request. -/
def Overrides.Free (overrides : Overrides) (request : Request) : Prop :=
  overrides.FreesPage request ∨ ∃ entry ∈ overrides.allowlist, entry.Frees request

variable {request : Request}

/-! ## Rules for overrides -/

namespace Overrides

/-- All that restricts an override is its filter and a list of pages. -/
theorem covers_iff {filter : String} {pages : Option (List String)} :
    Trigger.Covers
        { urlFilter := filter, ifDomain := pages, loadType := some loadTypes } request ↔
      Filter.Matches filter request.url ∧ ∀ list ∈ pages, request.IsListed list := by
  constructor
  · intro covers
    exact ⟨covers.url, covers.ifDomain⟩
  · intro ⟨url, ifDomain⟩
    have bothLoadTypes : ∀ loadType : LoadType, loadType ∈ loadTypes := by
      intro loadType
      cases loadType <;> decide
    exact
      { url := url
        loadType := by
          intro list given known _
          cases given
          exact bothLoadTypes known
        loadContext := by simp
        unlessDomain := by simp
        ifDomain := ifDomain
        resourceType := by simp }

theorem isListed_pageEntries {overrides : Overrides} :
    request.IsListed overrides.pageEntries ↔ overrides.FreesPage request := by
  rw [pageEntries, Request.isListed_append, Request.isListed_wildcards, FreesPage]

/-- The rule for whole pages covers the requests from the pages that are freed. Without entries
there is no such rule, and no page is freed. -/
theorem exists_pageRules_covers_iff {overrides : Overrides} :
    (∃ rule ∈ overrides.pageRules, rule.trigger.Covers request) ↔
      overrides.FreesPage request := by
  rw [← isListed_pageEntries, pageRules]
  by_cases absent : overrides.pageEntries.isEmpty
  · have nothing : overrides.pageEntries = [] := List.isEmpty_iff.mp absent
    simp [nothing, Request.IsListed]
  · rw [if_neg absent]
    simp [Rule.ignorePrevious, covers_iff, Filter.matches_everything]

end Overrides

/-- The rule for an entry covers what the entry frees. -/
theorem AllowlistEntry.exists_toRule?_covers_iff {entry : AllowlistEntry} :
    (∃ rule, entry.toRule? = some rule ∧ rule.trigger.Covers request) ↔
      entry.Frees request := by
  rcases entry with ⟨rule, reach⟩
  cases reach with
  | all =>
      simp [toRule?, Frees, Reach.Includes, Rule.ignorePrevious, Overrides.covers_iff]
  | domains domains =>
      simp [toRule?, Frees, Reach.Includes, Rule.ignorePrevious, Overrides.covers_iff,
        Request.isListed_wildcards]
  | none => simp [toRule?, Frees, Reach.Includes]

namespace Overrides

/-- Some override covers a request if and only if the request is freed. -/
theorem exists_toRules_covers_iff {overrides : Overrides} :
    (∃ rule ∈ overrides.toRules, rule.trigger.Covers request) ↔ overrides.Free request := by
  have entries :
      (∃ rule ∈ overrides.allowlist.filterMap AllowlistEntry.toRule?,
        rule.trigger.Covers request) ↔
        ∃ entry ∈ overrides.allowlist, entry.Frees request := by
    simp only [List.mem_filterMap, ← AllowlistEntry.exists_toRule?_covers_iff]
    constructor
    · intro ⟨rule, ⟨entry, member, converted⟩, covers⟩
      exact ⟨entry, member, rule, converted, covers⟩
    · intro ⟨entry, member, rule, converted, covers⟩
      exact ⟨rule, ⟨entry, member, converted⟩, covers⟩
  simp only [toRules, List.mem_append, or_and_right, exists_or]
  rw [exists_pageRules_covers_iff, entries, Free]

/-- All overrides ignore previous rules, and differ in filters and lists of pages only. -/
theorem exists_eq_of_mem_toRules {overrides : Overrides} {rule : Rule}
    (member : rule ∈ overrides.toRules) :
    ∃ filter pages,
      rule = .ignorePrevious
        { urlFilter := filter, ifDomain := pages, loadType := some loadTypes } := by
  rw [toRules, List.mem_append, pageRules] at member
  rcases member with page | listed
  · split at page
    · cases page
    · exact ⟨_, _, List.mem_singleton.mp page⟩
  · obtain ⟨entry, _, converted⟩ := List.mem_filterMap.mp listed
    rcases entry with ⟨text, reach⟩
    cases reach with
    | all => exact ⟨_, _, (Option.some.inj converted).symm⟩
    | domains domains => exact ⟨_, _, (Option.some.inj converted).symm⟩
    | none => cases converted

/-- Overrides do nothing but ignore previous rules. -/
theorem action_of_mem_toRules {overrides : Overrides} {rule : Rule}
    (member : rule ∈ overrides.toRules) :
    rule.action = .ignorePreviousRules := by
  obtain ⟨filter, pages, rfl⟩ := exists_eq_of_mem_toRules member
  rfl

/-- The rules of overrides allow what is freed. -/
theorem lastDecision?_toRules_of_free {overrides : Overrides} (free : overrides.Free request) :
    RuleList.lastDecision? request overrides.toRules = some .allow := by
  obtain ⟨rule, last⟩ := RuleList.exists_isLast (exists_toRules_covers_iff.mpr free)
  have ignores : rule.action = .ignorePreviousRules :=
    action_of_mem_toRules last.mem
  rw [RuleList.lastDecision?_of_isLast (Or.inr ignores) last, ignores]
  rfl

/-- The rules of overrides leave undecided what is not freed. -/
theorem lastDecision?_toRules_of_not_free {overrides : Overrides}
    (bound : ¬ overrides.Free request) :
    RuleList.lastDecision? request overrides.toRules = none := by
  apply RuleList.lastDecision?_of_uncovered
  intro rule member covers
  exact bound (exists_toRules_covers_iff.mp ⟨rule, member, covers⟩)

end Overrides

/-! ## Precedence -/

namespace Dataset

/-- The rules without overrides are those of the trackers and of the trackers behind aliases. -/
theorem buildRules_eq (dataset : Dataset) (overrides : Overrides) :
    dataset.buildRules overrides = dataset.buildRules {} ++ overrides.toRules := by
  simp [buildRules, build, Overrides.toRules, Overrides.pageRules, Overrides.pageEntries,
    Filter.wildcards]

/-- What is freed is allowed, and about everything else the rules of the trackers decide. -/
theorem decision_buildRules (dataset : Dataset) (overrides : Overrides) (request : Request) :
    (overrides.Free request →
        (RuleList.verdict (dataset.buildRules overrides) request).decision = .allow) ∧
      (¬ overrides.Free request →
        (RuleList.verdict (dataset.buildRules overrides) request).decision =
          (RuleList.verdict (dataset.buildRules {}) request).decision) := by
  rw [buildRules_eq, RuleList.decision_verdict_append]
  constructor
  · intro free
    rw [Overrides.lastDecision?_toRules_of_free free]
    rfl
  · intro bound
    rw [Overrides.lastDecision?_toRules_of_not_free bound]
    rfl

/-- A request is allowed if and only if the rules of the trackers allow it, its page is freed or an
entry of the allowlist frees it. Overrides never block, and entries that hold nowhere change
nothing. -/
theorem allows_buildRules_iff (dataset : Dataset) (overrides : Overrides) (request : Request) :
    ((RuleList.verdict (dataset.buildRules overrides) request).decision = .allow ↔
        (RuleList.verdict (dataset.buildRules {}) request).decision = .allow ∨
          overrides.FreesPage request ∨
            ∃ entry ∈ overrides.allowlist, entry.Frees request) ∧
      ((RuleList.verdict (dataset.buildRules {}) request).decision = .allow →
        (RuleList.verdict (dataset.buildRules overrides) request).decision = .allow) ∧
      dataset.buildRules
          { overrides with allowlist := overrides.allowlist.filter (·.reach ≠ .none) } =
        dataset.buildRules overrides := by
  have ⟨whenFree, whenBound⟩ := dataset.decision_buildRules overrides request
  have precedence :
      (RuleList.verdict (dataset.buildRules overrides) request).decision = .allow ↔
        (RuleList.verdict (dataset.buildRules {}) request).decision = .allow ∨
          overrides.Free request := by
    by_cases free : overrides.Free request
    · simp [whenFree free, free]
    · rw [whenBound free]
      simp [free]
  refine ⟨precedence, ?_, ?_⟩
  · intro allowed
    exact precedence.mpr (Or.inl allowed)
  · have unheard : ∀ entries : List AllowlistEntry,
        (entries.filter (·.reach ≠ .none)).filterMap AllowlistEntry.toRule? =
          entries.filterMap AllowlistEntry.toRule? := by
      intro entries
      rw [List.filterMap_filter]
      congr 1
      funext entry
      rcases entry with ⟨rule, reach⟩
      cases reach <;> rfl
    rw [buildRules_eq, buildRules_eq dataset overrides, Overrides.toRules, unheard]
    rfl

end Dataset

end ContentBlocking
