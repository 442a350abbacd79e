import Mathlib.Data.List.DropRight
import Mathlib.Data.List.Induction
import ContentBlocking.Proofs.RuleList.Decision

/-!
# The outcome of a replay

A replay carries a decision, an index and a list of selectors from rule to rule. Here each of them
is said without a replay, by the last rules that apply to the request. Filters that are read once
for the whole list give the same outcome as filters that are read again for each rule.
-/

namespace ContentBlocking

/-! ## Rules that apply to a request -/

/-- The trigger of the rule matches the resource on its page, and its lists of load types and load
contexts have what is known about the request. -/
structure Rule.AppliesTo (rule : Rule) (request : Request) : Prop where
  isMatch : rule.isMatch request.url request.page request.resourceType = true
  loadType : ∀ list ∈ rule.trigger.loadType, ∀ known ∈ request.loadType, known ∈ list
  loadContext : ∀ list ∈ rule.trigger.loadContext, ∀ known ∈ request.loadContext, known ∈ list

theorem Rule.appliesTo_iff_covers {rule : Rule} {request : Request} :
    rule.AppliesTo request ↔ rule.trigger.Covers request := by
  have checks :
      rule.prepared.applies request request.url.toList (Url.pageDomains? request.page) =
        (passesIfKnown rule.trigger.loadType request.loadType &&
          passesIfKnown rule.trigger.loadContext request.loadContext &&
          rule.isMatch request.url request.page request.resourceType) :=
    rfl
  rw [← Rule.applies_prepared_iff, checks, Bool.and_eq_true, Bool.and_eq_true,
    Trigger.passesIfKnown_iff, Trigger.passesIfKnown_iff]
  constructor
  · intro applies
    exact ⟨⟨applies.loadType, applies.loadContext⟩, applies.isMatch⟩
  · intro ⟨⟨loadType, loadContext⟩, isMatch⟩
    exact ⟨isMatch, loadType, loadContext⟩

instance (rule : Rule) (request : Request) : Decidable (rule.AppliesTo request) :=
  decidable_of_iff _ Rule.appliesTo_iff_covers.symm

namespace Rule

def Blocks (rule : Rule) (request : Request) : Prop :=
  rule.AppliesTo request ∧ rule.action = .block

def Ignores (rule : Rule) (request : Request) : Prop :=
  rule.AppliesTo request ∧ rule.action = .ignorePreviousRules

def Decides (rule : Rule) (request : Request) : Prop :=
  rule.Blocks request ∨ rule.Ignores request

/-- The selector that the rule hides if it applies to the request. -/
def hides? (rule : Rule) (request : Request) : Option String :=
  match rule.action with
  | .cssDisplayNone selector => if rule.AppliesTo request then some selector else none
  | _ => none

instance (rule : Rule) (request : Request) : Decidable (rule.Blocks request) :=
  inferInstanceAs (Decidable (_ ∧ rule.action = .block))

instance (rule : Rule) (request : Request) : Decidable (rule.Ignores request) :=
  inferInstanceAs (Decidable (_ ∧ rule.action = .ignorePreviousRules))

instance (rule : Rule) (request : Request) : Decidable (rule.Decides request) :=
  inferInstanceAs (Decidable (rule.Blocks request ∨ rule.Ignores request))

end Rule

namespace RuleList

variable {request : Request}

/-! ## Filters that are read again -/

/-- A replay that has read no filter before it comes to a rule. -/
def plainVerdict (rules : List Rule) (request : Request) : Verdict :=
  rules.zipIdx.foldl
    (fun verdict (rule, index) =>
      if rule.AppliesTo request then verdict.take index rule.action else verdict)
    Verdict.start

/-- Reading each filter once does not change the outcome. -/
theorem verdict_eq_plainVerdict (rules : List Rule) (request : Request) :
    verdict rules request = plainVerdict rules request := by
  rw [verdict_eq_foldl, plainVerdict]
  congr 1
  funext verdict entry
  exact if_congr Rule.appliesTo_iff_covers.symm rfl rfl

theorem mem_invalidRules {rules : List Rule} {index : Nat} :
    index ∈ invalidRules rules ↔
      ∃ rule, rules[index]? = some rule ∧
        Pattern.ofFilter? rule.trigger.urlFilter = none := by
  simp only [invalidRules, invalid, prepare_eq, List.zipIdx_map, List.filterMap_map,
    List.mem_filterMap, Prod.exists, List.mem_zipIdx_iff_getElem?, Function.comp_apply,
    Prod.map_apply, id_eq, Rule.prepared, Option.isNone_iff_eq_none,
    Option.ite_none_right_eq_some, Option.some.injEq]
  constructor
  · intro listed
    obtain ⟨rule, position, found, unread, same⟩ := listed
    subst same
    exact ⟨rule, found, unread⟩
  · intro malformed
    obtain ⟨rule, found, unread⟩ := malformed
    exact ⟨rule, index, found, unread, rfl⟩

theorem pairwise_invalidRules (rules : List Rule) :
    (invalidRules rules).Pairwise (· < ·) := by
  have increasing :
      (prepare rules).zipIdx.Pairwise (fun first second => first.2 < second.2) := by
    rw [← List.pairwise_map (f := Prod.snd), List.zipIdx_map_snd]
    exact List.pairwise_lt_range'
  rw [invalidRules, invalid, List.pairwise_filterMap]
  apply increasing.imp
  intro first second less index kept otherIndex otherKept
  obtain ⟨_, firstSame⟩ := Option.ite_none_right_eq_some.mp kept
  obtain ⟨_, secondSame⟩ := Option.ite_none_right_eq_some.mp otherKept
  cases firstSame
  cases secondSame
  exact less

/-- Reading every filter once gives the outcome of a replay that reads the filter of each rule
again. The rules reported as malformed are those whose filters have no pattern, in order. -/
theorem verdict_and_invalidRules_of_cache (rules : List Rule) (request : Request) :
    verdict rules request = plainVerdict rules request ∧
      (invalidRules rules).Pairwise (· < ·) ∧
        ∀ index, index ∈ invalidRules rules ↔
          ∃ rule, rules[index]? = some rule ∧
            Pattern.ofFilter? rule.trigger.urlFilter = none :=
  ⟨verdict_eq_plainVerdict rules request, pairwise_invalidRules rules,
    fun _ => mem_invalidRules⟩

/-! ## One more rule -/

/-- A rule at the end changes the outcome only if it applies. -/
theorem verdict_append_singleton (rules : List Rule) (last : Rule) (request : Request) :
    verdict (rules ++ [last]) request =
      if last.AppliesTo request then
        (verdict rules request).take rules.length last.action
      else verdict rules request := by
  rw [verdict_eq_plainVerdict, verdict_eq_plainVerdict, plainVerdict, List.zipIdx_append,
    List.foldl_append]
  simp [plainVerdict]

theorem blocks_append_singleton_iff (rules : List Rule) (last : Rule) :
    (verdict (rules ++ [last]) request).decision = .block ↔
      last.Blocks request ∨
        ¬ last.Ignores request ∧ (verdict rules request).decision = .block := by
  rw [verdict_append_singleton]
  by_cases applies : last.AppliesTo request
  · cases action : last.action <;>
      simp [applies, action, Verdict.take, Rule.Blocks, Rule.Ignores]
  · simp [applies, Rule.Blocks, Rule.Ignores]

theorem ruleIndex_append_singleton (rules : List Rule) (last : Rule) :
    (verdict (rules ++ [last]) request).ruleIndex =
      if last.Decides request then some rules.length
      else (verdict rules request).ruleIndex := by
  rw [verdict_append_singleton]
  by_cases applies : last.AppliesTo request
  · cases action : last.action <;>
      simp [applies, action, Verdict.take, Rule.Decides, Rule.Blocks, Rule.Ignores]
  · simp [applies, Rule.Decides, Rule.Blocks, Rule.Ignores]

theorem hidden_append_singleton (rules : List Rule) (last : Rule) :
    (verdict (rules ++ [last]) request).hidden =
      if last.Ignores request then []
      else (verdict rules request).hidden ++ (last.hides? request).toList := by
  rw [verdict_append_singleton]
  by_cases applies : last.AppliesTo request
  · cases action : last.action <;>
      simp [applies, action, Verdict.take, Rule.Ignores, Rule.hides?]
  · have hidesNothing : last.hides? request = none := by
      cases action : last.action <;> simp [Rule.hides?, action, applies]
    simp [applies, Rule.Ignores, hidesNothing]

/-! ## The last rules that apply -/

/-- A last item takes the place of what stands in front of it, or opposes it, or does neither. -/
theorem exists_unopposed_append_singleton {α : Type} {items : List α} {last : α}
    {holds : List α → α → Prop} {opposes : α → Prop} :
    (∃ early item late,
        items ++ [last] = early ++ item :: late ∧ holds early item ∧
          ∀ other ∈ late, ¬ opposes other) ↔
      holds items last ∨
        ¬ opposes last ∧
          ∃ early item late,
            items = early ++ item :: late ∧ holds early item ∧
              ∀ other ∈ late, ¬ opposes other := by
  constructor
  · intro ⟨early, item, late, equality, property, unopposed⟩
    rcases List.eq_nil_or_concat late with rfl | ⟨rest, final, rfl⟩
    · obtain ⟨rfl, same⟩ := List.append_inj' equality rfl
      cases same
      exact Or.inl property
    · have regrouped : items ++ [last] = (early ++ item :: rest) ++ [final] := by
        rw [equality, List.concat_eq_append, List.append_assoc, List.cons_append]
      obtain ⟨rfl, same⟩ := List.append_inj' regrouped rfl
      cases same
      rw [List.concat_eq_append, List.forall_mem_append] at unopposed
      exact Or.inr ⟨unopposed.2 last (List.mem_singleton_self last),
        early, item, rest, rfl, property, unopposed.1⟩
  · intro either
    rcases either with atEnd | ⟨silent, early, item, late, rfl, property, unopposed⟩
    · exact ⟨items, last, [], rfl, atEnd, by simp⟩
    · refine ⟨early, item, late ++ [last], by simp, property, ?_⟩
      rw [List.forall_mem_append, List.forall_mem_singleton]
      exact ⟨unopposed, silent⟩

/-- A request is blocked exactly if some rule blocks it and none behind that one ignores it. -/
theorem blocks_verdict_iff {rules : List Rule} :
    (verdict rules request).decision = .block ↔
      ∃ early rule late,
        rules = early ++ rule :: late ∧ rule.Blocks request ∧
          ∀ other ∈ late, ¬ other.Ignores request := by
  induction rules using List.reverseRecOn with
  | nil => simp [verdict_eq_foldl, Verdict.start]
  | append_singleton rules last inductionHypothesis =>
      rw [blocks_append_singleton_iff, exists_unopposed_append_singleton, inductionHypothesis]

/-- The index of an outcome is that of the last rule that decides. -/
theorem ruleIndex_verdict_eq_some_iff {rules : List Rule} {index : Nat} :
    (verdict rules request).ruleIndex = some index ↔
      ∃ early rule late,
        rules = early ++ rule :: late ∧ (early.length = index ∧ rule.Decides request) ∧
          ∀ other ∈ late, ¬ other.Decides request := by
  induction rules using List.reverseRecOn with
  | nil => simp [verdict_eq_foldl, Verdict.start]
  | append_singleton rules last inductionHypothesis =>
      rw [ruleIndex_append_singleton, exists_unopposed_append_singleton, ← inductionHypothesis]
      by_cases decides : last.Decides request
      · simp [decides]
      · simp [decides]

theorem ruleIndex_verdict_eq_none_iff {rules : List Rule} :
    (verdict rules request).ruleIndex = none ↔
      ∀ rule ∈ rules, ¬ rule.Decides request := by
  induction rules using List.reverseRecOn with
  | nil => simp [verdict_eq_foldl, Verdict.start]
  | append_singleton rules last inductionHypothesis =>
      rw [ruleIndex_append_singleton, List.forall_mem_append, List.forall_mem_singleton,
        ← inductionHypothesis]
      by_cases decides : last.Decides request
      · simp [decides]
      · simp [decides]

/-- The rules behind the last one that ignores previous rules, or all rules if none does. -/
def sinceIgnoring (request : Request) (rules : List Rule) : List Rule :=
  rules.rtakeWhile fun rule => ¬ rule.Ignores request

theorem sinceIgnoring_append_singleton (rules : List Rule) (last : Rule) :
    sinceIgnoring request (rules ++ [last]) =
      if last.Ignores request then [] else sinceIgnoring request rules ++ [last] := by
  rw [sinceIgnoring, List.rtakeWhile_concat]
  by_cases ignores : last.Ignores request
  · simp [ignores]
  · simp [ignores, sinceIgnoring]

/-- The hidden selectors are those of the rules behind the last one that ignores previous rules. -/
theorem hidden_verdict (rules : List Rule) (request : Request) :
    (verdict rules request).hidden =
      (sinceIgnoring request rules).filterMap fun rule => rule.hides? request := by
  induction rules using List.reverseRecOn with
  | nil => simp [verdict_eq_foldl, Verdict.start, sinceIgnoring]
  | append_singleton rules last inductionHypothesis =>
      rw [hidden_append_singleton, sinceIgnoring_append_singleton, inductionHypothesis]
      by_cases ignores : last.Ignores request
      · simp [ignores]
      · cases hides : last.hides? request <;> simp [ignores, hides]

/-- A request is blocked if and only if no rule behind one that blocks it ignores previous rules.
The index is the one of the last rule that decides, and the selectors are those of the rules behind
the last one that ignores previous rules. -/
theorem verdict_by_last_rules (rules : List Rule) (request : Request) :
    ((verdict rules request).decision = .block ↔
        ∃ early rule late,
          rules = early ++ rule :: late ∧ rule.Blocks request ∧
            ∀ other ∈ late, ¬ other.Ignores request) ∧
      (∀ index, (verdict rules request).ruleIndex = some index ↔
        ∃ early rule late,
          rules = early ++ rule :: late ∧ (early.length = index ∧ rule.Decides request) ∧
            ∀ other ∈ late, ¬ other.Decides request) ∧
      ((verdict rules request).ruleIndex = none ↔ ∀ rule ∈ rules, ¬ rule.Decides request) ∧
      (verdict rules request).hidden =
        (sinceIgnoring request rules).filterMap fun rule => rule.hides? request :=
  ⟨blocks_verdict_iff, fun _ => ruleIndex_verdict_eq_some_iff, ruleIndex_verdict_eq_none_iff,
    hidden_verdict rules request⟩

end RuleList

end ContentBlocking
