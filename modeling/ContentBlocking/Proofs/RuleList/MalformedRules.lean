import Mathlib.Data.List.Perm.Subperm
import ContentBlocking.Proofs.RuleList.Outcome

/-!
# Rules with malformed filters

A rule whose filter is malformed applies to no request, wherever it stands. If all such rules are
deleted from a list, the same is decided and the same is hidden. Only the index of the last rule
that decides is smaller, by the number of rules that were deleted in front of it.
-/

namespace ContentBlocking

namespace Rule

/-- The filter of the rule has no pattern. -/
def IsMalformed (rule : Rule) : Prop := Pattern.ofFilter? rule.trigger.urlFilter = none

instance (rule : Rule) : Decidable rule.IsMalformed :=
  decidable_of_iff _ Option.isNone_iff_eq_none

/-- A malformed rule applies to no request. -/
theorem IsMalformed.not_appliesTo {rule : Rule} (malformed : rule.IsMalformed) (request : Request) :
    ¬ rule.AppliesTo request := by
  intro applies
  obtain ⟨pattern, read, _⟩ := (appliesTo_iff_covers.mp applies).url
  rw [malformed] at read
  cases read

end Rule

/-- The outcome after the rules at some indices have been deleted, and those behind them moved up.
-/
def Verdict.movedUp (deleted : List Nat) (verdict : Verdict) : Verdict :=
  { verdict with
    ruleIndex := verdict.ruleIndex.map fun index => index - deleted.countP (· < index) }

/-- Moving indices up commutes with taking in a rule. -/
theorem Verdict.movedUp_take (deleted : List Nat) (verdict : Verdict) (index : Nat)
    (action : Action) :
    (verdict.take index action).movedUp deleted =
      (verdict.movedUp deleted).take (index - deleted.countP (· < index)) action := by
  cases action <;> rfl

namespace RuleList

variable {rules : List Rule} {request : Request} {index : Nat}

/-- The rules of a list that do not stand at one of the indices. -/
def without (indices : List Nat) (rules : List Rule) : List Rule :=
  (rules.zipIdx.filter fun entry => entry.2 ∉ indices).map Prod.fst

def wellFormed (rules : List Rule) : List Rule := rules.filter fun rule => ¬ rule.IsMalformed

/-- Deleting what stands at the invalid indices leaves the well-formed rules. -/
theorem without_invalidRules (rules : List Rule) :
    without (invalidRules rules) rules = wellFormed rules := by
  have sameKept : ∀ entry ∈ rules.zipIdx,
      decide (entry.2 ∉ invalidRules rules) = decide (¬ entry.1.IsMalformed) := by
    intro entry member
    have found : rules[entry.2]? = some entry.1 := List.mem_zipIdx_iff_getElem?.mp member
    have listed : entry.2 ∈ invalidRules rules ↔ entry.1.IsMalformed := by
      simp [mem_invalidRules, found, Rule.IsMalformed]
    exact decide_eq_decide.mpr (not_congr listed)
  rw [without, List.filter_congr sameKept, wellFormed]
  conv_rhs => rw [← List.zipIdx_map_fst 0 rules, List.filter_map]
  rfl

/-! ## Indices -/

theorem lt_length_of_mem_invalidRules (member : index ∈ invalidRules rules) :
    index < rules.length := by
  obtain ⟨rule, found, _⟩ := mem_invalidRules.mp member
  exact (List.getElem?_eq_some_iff.mp found).1

theorem lt_length_of_ruleIndex (decided : (verdict rules request).ruleIndex = some index) :
    index < rules.length := by
  obtain ⟨early, rule, late, rfl, ⟨rfl, _⟩, _⟩ := ruleIndex_verdict_eq_some_iff.mp decided
  rw [List.length_append, List.length_cons]
  omega

/-- In front of an index there are no more rules than the index says. -/
theorem countP_invalidRules_le (rules : List Rule) (index : Nat) :
    (invalidRules rules).countP (· < index) ≤ index := by
  have once : ((invalidRules rules).filter (· < index)).Nodup :=
    ((pairwise_invalidRules rules).imp Nat.ne_of_lt).filter _
  have inside : (invalidRules rules).filter (· < index) ⊆ List.range index := by
    intro other member
    exact List.mem_range.mpr (of_decide_eq_true (List.mem_filter.mp member).2)
  have fewer := (once.subperm inside).length_le
  rwa [← List.countP_eq_length_filter, List.length_range] at fewer

/-- A malformed rule never makes a decision. -/
theorem ruleIndex_not_mem_invalidRules (decided : (verdict rules request).ruleIndex = some index) :
    index ∉ invalidRules rules := by
  obtain ⟨early, rule, late, rfl, ⟨rfl, decides⟩, _⟩ := ruleIndex_verdict_eq_some_iff.mp decided
  have applies : rule.AppliesTo request := by
    rcases decides with blocks | ignores
    · exact blocks.1
    · exact ignores.1
  intro member
  obtain ⟨other, found, malformed⟩ := mem_invalidRules.mp member
  have same : rule = other := by simpa using found
  subst same
  exact Rule.IsMalformed.not_appliesTo malformed request applies

/-! ## One more rule -/

theorem invalidRules_append_singleton (rules : List Rule) (last : Rule) :
    invalidRules (rules ++ [last]) =
      invalidRules rules ++ if last.IsMalformed then [rules.length] else [] := by
  have unread : last.prepared.pattern = none ↔ last.IsMalformed := Iff.rfl
  by_cases malformed : last.IsMalformed
  · simp [invalidRules, invalid, prepare_eq, List.zipIdx_append, unread, malformed]
  · simp [invalidRules, invalid, prepare_eq, List.zipIdx_append, unread, malformed]

theorem wellFormed_append_singleton (rules : List Rule) (last : Rule) :
    wellFormed (rules ++ [last]) =
      wellFormed rules ++ if last.IsMalformed then [] else [last] := by
  by_cases malformed : last.IsMalformed
  · simp [wellFormed, malformed]
  · simp [wellFormed, malformed]

theorem length_wellFormed_add (rules : List Rule) :
    (wellFormed rules).length + (invalidRules rules).length = rules.length := by
  induction rules using List.reverseRecOn with
  | nil => rfl
  | append_singleton rules last inductionHypothesis =>
      rw [wellFormed_append_singleton, invalidRules_append_singleton, List.length_append,
        List.length_append, List.length_append, ← inductionHypothesis]
      by_cases malformed : last.IsMalformed
      · simp [malformed, Nat.add_assoc]
      · simp [malformed, Nat.add_right_comm]

/-- The index of a further rule after the malformed rules have been deleted. -/
theorem length_wellFormed (rules : List Rule) :
    (wellFormed rules).length =
      rules.length - (invalidRules rules).countP (· < rules.length) := by
  have allBefore : (invalidRules rules).countP (· < rules.length) = (invalidRules rules).length := by
    rw [List.countP_eq_length]
    intro index member
    exact decide_eq_true (lt_length_of_mem_invalidRules member)
  rw [allBefore, ← length_wellFormed_add rules, Nat.add_sub_cancel]

/-- Deleting a last rule moves no rule up. -/
theorem movedUp_append_length (rules : List Rule) (request : Request) :
    (verdict rules request).movedUp (invalidRules rules ++ [rules.length]) =
      (verdict rules request).movedUp (invalidRules rules) := by
  have sameIndex :
      ((verdict rules request).ruleIndex.map fun index =>
        index - (invalidRules rules ++ [rules.length]).countP (· < index)) =
      (verdict rules request).ruleIndex.map fun index =>
        index - (invalidRules rules).countP (· < index) := by
    refine Option.map_congr fun index decided => ?_
    have before : index < rules.length := lt_length_of_ruleIndex decided
    simp [Nat.not_lt_of_lt before]
  rw [Verdict.movedUp, sameIndex, Verdict.movedUp]

/-! ## Deleting the rules -/

/-- The well-formed rules alone have the same outcome, with its index moved up. -/
theorem verdict_wellFormed (rules : List Rule) (request : Request) :
    verdict (wellFormed rules) request =
      (verdict rules request).movedUp (invalidRules rules) := by
  -- Both lists are built up from the front; a malformed rule lengthens only one of them.
  induction rules using List.reverseRecOn with
  | nil => rfl
  | append_singleton rules last inductionHypothesis =>
      rw [wellFormed_append_singleton, invalidRules_append_singleton]
      by_cases malformed : last.IsMalformed
      · have silent : ¬ last.AppliesTo request := malformed.not_appliesTo request
        rw [if_pos malformed, if_pos malformed, List.append_nil, verdict_append_singleton,
          if_neg silent, movedUp_append_length, inductionHypothesis]
      · rw [if_neg malformed, if_neg malformed, List.append_nil, verdict_append_singleton,
          verdict_append_singleton, inductionHypothesis, length_wellFormed]
        by_cases applies : last.AppliesTo request
        · rw [if_pos applies, if_pos applies, Verdict.movedUp_take]
        · rw [if_neg applies, if_neg applies]

theorem invalidRules_wellFormed (rules : List Rule) : invalidRules (wellFormed rules) = [] := by
  rw [List.eq_nil_iff_forall_not_mem]
  intro index member
  obtain ⟨rule, found, malformed⟩ := mem_invalidRules.mp member
  have kept := (List.mem_filter.mp (List.mem_of_getElem? found)).2
  exact of_decide_eq_true kept malformed

/-- Rules with malformed filters decide nothing, undo nothing and hide nothing. They can all be
deleted at once, and then the index of the rule that decides is smaller by the number of those
before it. -/
theorem verdict_without_invalidRules (rules : List Rule) (request : Request) :
    (verdict (without (invalidRules rules) rules) request).decision =
        (verdict rules request).decision ∧
      (verdict (without (invalidRules rules) rules) request).hidden =
        (verdict rules request).hidden ∧
      (verdict (without (invalidRules rules) rules) request).ruleIndex =
        ((verdict rules request).ruleIndex.map fun index =>
          index - (invalidRules rules).countP (· < index)) ∧
      (∀ index, (invalidRules rules).countP (· < index) ≤ index) ∧
      (∀ index ∈ invalidRules rules, (verdict rules request).ruleIndex ≠ some index) ∧
      invalidRules (without (invalidRules rules) rules) = [] := by
  rw [without_invalidRules, verdict_wellFormed]
  refine ⟨rfl, rfl, rfl, countP_invalidRules_le rules, ?_, invalidRules_wellFormed rules⟩
  intro index member decided
  exact ruleIndex_not_mem_invalidRules decided member

/-- A block between two rules whose filters are never closed. -/
def unclosedAroundBlock : List Rule :=
  [.block { urlFilter := "(" }, .block { urlFilter := "ad" }, .ignorePrevious { urlFilter := "[" }]

theorem verdict_unclosedAroundBlock :
    0 ∈ invalidRules unclosedAroundBlock ∧
      verdict unclosedAroundBlock { url := "http://ad.com/", page := "http://shop.com/" } =
        ⟨.block, some 1, []⟩ ∧
      verdict (without (invalidRules unclosedAroundBlock) unclosedAroundBlock)
          { url := "http://ad.com/", page := "http://shop.com/" } =
        ⟨.block, some 0, []⟩ := by
  have malformed : invalidRules unclosedAroundBlock = [0, 2] := by
    rw [invalidRules, prepare_eq]
    decide +kernel
  have before : verdict unclosedAroundBlock { url := "http://ad.com/", page := "http://shop.com/" } =
      ⟨.block, some 1, []⟩ := by
    rw [verdict_eq_plainVerdict]
    decide +kernel
  obtain ⟨decision, hidden, ruleIndex, _⟩ := verdict_without_invalidRules unclosedAroundBlock
    { url := "http://ad.com/", page := "http://shop.com/" }
  rw [before] at decision hidden ruleIndex
  rw [malformed] at decision hidden ruleIndex ⊢
  refine ⟨List.mem_cons_self, before, ?_⟩
  rw [Verdict.mk.injEq]
  exact ⟨decision, ruleIndex, hidden⟩

end RuleList

end ContentBlocking
