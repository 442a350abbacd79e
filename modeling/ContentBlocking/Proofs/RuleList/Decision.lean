import ContentBlocking.Proofs.Trigger.Coverage

/-!
# The decision of a rule list

Reading every filter once gives the same rules as reading it for each rule. So a replay goes through
the rules that cover the request, and its decision is the one of the last of them that blocks or
ignores previous rules. The decision on two lists in a row is the one of the second list, or of the
first if the second makes none.
-/

namespace ContentBlocking

/-! ## The filters that have been read -/

namespace RuleList

/-- Every pattern in the cache is the pattern of its filter. -/
def FilterCache.IsFaithful (cache : FilterCache) : Prop :=
  ∀ filter pattern, cache[filter]? = some pattern → pattern = Pattern.ofFilter? filter

theorem FilterCache.isFaithful_empty :
    FilterCache.IsFaithful ∅ := by
  intro filter pattern found
  simp at found

theorem FilterCache.IsFaithful.insert {cache : FilterCache}
    (faithful : FilterCache.IsFaithful cache) (filter : String) :
    FilterCache.IsFaithful (cache.insert filter (Pattern.ofFilter? filter)) := by
  intro other pattern found
  rw [Std.HashMap.getElem?_insert] at found
  by_cases same : filter = other
  · subst same
    simpa using found.symm
  · simp only [beq_iff_eq, same, if_false] at found
    exact faithful other pattern found

/-- With a faithful cache, each rule is prepared with the pattern of its own filter. -/
theorem prepareAfter_eq {cache : FilterCache} {done : List PreparedRule} {rules : List Rule}
    (faithful : FilterCache.IsFaithful cache) :
    prepareAfter cache done rules = done.reverse ++ rules.map Rule.prepared := by
  induction rules generalizing cache done with
  | nil => simp [prepareAfter]
  | cons rule rest inductionHypothesis =>
      rw [prepareAfter]
      split
      · rename_i pattern found
        have read : pattern = Pattern.ofFilter? rule.trigger.urlFilter :=
          faithful rule.trigger.urlFilter pattern found
        rw [inductionHypothesis faithful, read]
        simp [Rule.prepared]
      · rw [inductionHypothesis (faithful.insert rule.trigger.urlFilter)]
        simp [Rule.prepared]

/-- Reading the filters once gives every rule its own pattern. -/
theorem prepare_eq (rules : List Rule) :
    prepare rules = rules.map Rule.prepared := by
  rw [prepare, prepareAfter_eq FilterCache.isFaithful_empty, List.reverse_nil, List.nil_append]

end RuleList

/-! ## Replay, one rule after the other -/

/-- The outcome after one more rule, which changes it only if its trigger covers the request. -/
def Verdict.next (request : Request) (verdict : Verdict) (entry : Rule × Nat) : Verdict :=
  if entry.1.trigger.Covers request then verdict.take entry.2 entry.1.action else verdict

/-- A verdict is reached by taking in the rules that cover the request, each with its index. -/
theorem RuleList.verdict_eq_foldl (rules : List Rule) (request : Request) :
    RuleList.verdict rules request =
      rules.zipIdx.foldl (Verdict.next request) Verdict.start := by
  simp only [RuleList.verdict, RuleList.replay, RuleList.prepare_eq, List.zipIdx_map,
    List.foldl_map, Rule.applies_prepared_iff, Prod.map_fst, Prod.map_snd, id_eq]
  rfl

/-! ## Decisions -/

def Action.decision? : Action → Option Decision
  | .block => some .block
  | .ignorePreviousRules => some .allow
  | .cssDisplayNone _ => none

/-- A decisive rule blocks or ignores previous rules. -/
def Rule.IsDecisive (rule : Rule) : Prop :=
  rule.action = .block ∨ rule.action = .ignorePreviousRules

/-- Decisive rules decide alike if and only if they do the same. -/
theorem Rule.IsDecisive.decision?_eq_iff {rule other : Rule} {before : Decision}
    (decisive : rule.IsDecisive) (otherDecisive : other.IsDecisive) :
    rule.action.decision?.getD before = other.action.decision?.getD before ↔
      rule.action = other.action := by
  rcases decisive with blocks | ignores <;>
    rcases otherDecisive with otherBlocks | otherIgnores <;>
      simp_all [Action.decision?]

def Rule.decision? (rule : Rule) (request : Request) : Option Decision :=
  if rule.trigger.Covers request then rule.action.decision? else none

theorem Rule.decision?_of_covers {rule : Rule} {request : Request}
    (covers : rule.trigger.Covers request) :
    rule.decision? request = rule.action.decision? :=
  if_pos covers

theorem Rule.decision?_of_not_covers {rule : Rule} {request : Request}
    (uncovered : ¬ rule.trigger.Covers request) :
    rule.decision? request = none :=
  if_neg uncovered

theorem Rule.covers_of_decision? {rule : Rule} {request : Request} {decision : Decision}
    (decides : rule.decision? request = some decision) :
    rule.trigger.Covers request := by
  by_cases covers : rule.trigger.Covers request
  · exact covers
  · rw [Rule.decision?_of_not_covers covers] at decides
    cases decides

theorem Verdict.decision_next (request : Request) (verdict : Verdict) (entry : Rule × Nat) :
    (verdict.next request entry).decision =
      (entry.1.decision? request).getD verdict.decision := by
  unfold Verdict.next Rule.decision?
  by_cases covers : entry.1.trigger.Covers request
  · rw [if_pos covers, if_pos covers]
    cases entry.1.action <;> rfl
  · rw [if_neg covers, if_neg covers]
    rfl

namespace RuleList

variable {request : Request}

/-- The decision of the last rule in a list that makes one. -/
def lastDecision? (request : Request) : List Rule → Option Decision
  | [] => none
  | rule :: rest => (lastDecision? request rest).or (rule.decision? request)

/-- The later rules decide, and the earlier ones where those do not. -/
theorem lastDecision?_append (early late : List Rule) :
    lastDecision? request (early ++ late) =
      (lastDecision? request late).or (lastDecision? request early) := by
  induction early with
  | nil => simp [lastDecision?]
  | cons rule rest inductionHypothesis =>
      rw [List.cons_append, lastDecision?, lastDecision?, inductionHypothesis,
        Option.or_assoc]

theorem lastDecision?_eq_none {rules : List Rule} :
    lastDecision? request rules = none ↔
      ∀ rule ∈ rules, rule.decision? request = none := by
  induction rules with
  | nil => simp [lastDecision?]
  | cons rule rest inductionHypothesis =>
      rw [lastDecision?, Option.or_eq_none_iff, inductionHypothesis, List.forall_mem_cons,
        and_comm]

theorem exists_of_lastDecision? {rules : List Rule} {decision : Decision}
    (decided : lastDecision? request rules = some decision) :
    ∃ rule ∈ rules, rule.decision? request = some decision := by
  induction rules with
  | nil => cases decided
  | cons rule rest inductionHypothesis =>
      rw [lastDecision?, Option.or_eq_some_iff] at decided
      rcases decided with later | ⟨_, first⟩
      · obtain ⟨other, member, decides⟩ := inductionHypothesis later
        exact ⟨other, List.mem_cons_of_mem rule member, decides⟩
      · exact ⟨rule, List.mem_cons_self, first⟩

/-! ## Lists in a row -/

section Lists

variable {α : Type} {items : List α} {rulesOf : α → List Rule} {decision : Decision}

theorem exists_of_lastDecision?_flatMap
    (decided : lastDecision? request (items.flatMap rulesOf) = some decision) :
    ∃ item ∈ items, lastDecision? request (rulesOf item) = some decision := by
  induction items with
  | nil => cases decided
  | cons item rest inductionHypothesis =>
      rw [List.flatMap_cons, lastDecision?_append, Option.or_eq_some_iff] at decided
      rcases decided with later | ⟨_, first⟩
      · obtain ⟨other, member, decides⟩ := inductionHypothesis later
        exact ⟨other, List.mem_cons_of_mem item member, decides⟩
      · exact ⟨item, List.mem_cons_self, first⟩

/-- Where no list decides otherwise, the order of the lists does not matter. -/
theorem lastDecision?_flatMap_eq_some_iff
    (unopposed : ∀ item ∈ items, ∀ other,
      lastDecision? request (rulesOf item) = some other → other = decision) :
    lastDecision? request (items.flatMap rulesOf) = some decision ↔
      ∃ item ∈ items, lastDecision? request (rulesOf item) = some decision := by
  constructor
  · exact exists_of_lastDecision?_flatMap
  · intro ⟨item, member, decides⟩
    cases decided : lastDecision? request (items.flatMap rulesOf) with
    | none =>
        have silent : lastDecision? request (rulesOf item) = none :=
          lastDecision?_eq_none.mpr fun rule inItem =>
            lastDecision?_eq_none.mp decided rule
              (List.mem_flatMap.mpr ⟨item, member, inItem⟩)
        rw [silent] at decides
        cases decides
    | some other =>
        obtain ⟨source, sourceMember, sourceDecides⟩ := exists_of_lastDecision?_flatMap decided
        rw [unopposed source sourceMember other sourceDecides]

end Lists

/-! ## The decision of a replay -/

/-- A replay ends with the last decision of its rules, or with the one that it began with. -/
theorem decision_foldl (rules : List Rule) (index : Nat) (verdict : Verdict) :
    ((rules.zipIdx index).foldl (Verdict.next request) verdict).decision =
      (lastDecision? request rules).getD verdict.decision := by
  -- A replay carries its outcome along, so the statement is about every outcome so far.
  induction rules generalizing index verdict with
  | nil => rfl
  | cons rule rest inductionHypothesis =>
      rw [List.zipIdx_cons, List.foldl_cons, inductionHypothesis, Verdict.decision_next,
        lastDecision?]
      cases lastDecision? request rest with
      | none => rfl
      | some decision => rfl

/-- A replay decides as the last rule does that makes a decision, and allows if there is none. -/
theorem decision_verdict (rules : List Rule) (request : Request) :
    (verdict rules request).decision =
      (lastDecision? request rules).getD .allow := by
  rw [verdict_eq_foldl, decision_foldl]
  rfl

/-- What later rules decide goes before what earlier rules have decided. -/
theorem decision_verdict_append (early late : List Rule) (request : Request) :
    (verdict (early ++ late) request).decision =
      (lastDecision? request late).getD (verdict early request).decision := by
  rw [decision_verdict, decision_verdict, lastDecision?_append]
  cases lastDecision? request late with
  | none => rfl
  | some decision => rfl

/-! ## The last rule that covers a request -/

/-- `item` is the last member of the list that has the property. -/
def IsLast {α : Type} (holds : α → Prop) (items : List α) (item : α) : Prop :=
  ∃ early late,
    items = early ++ item :: late ∧ holds item ∧ ∀ other ∈ late, ¬ holds other

theorem IsLast.mem {α : Type} {holds : α → Prop} {items : List α} {item : α}
    (last : IsLast holds items item) :
    item ∈ items := by
  obtain ⟨early, late, rfl, _⟩ := last
  exact List.mem_append_right early List.mem_cons_self

theorem IsLast.of_append {α : Type} {holds : α → Prop} {first second : List α} {item : α}
    (last : IsLast holds (first ++ second) item) :
    IsLast holds second item ∨ IsLast holds first item := by
  obtain ⟨early, late, split, property, uncovered⟩ := last
  rcases List.append_eq_append_iff.mp split with ⟨middle, rfl, rfl⟩ | ⟨middle, rfl, same⟩
  · exact Or.inl ⟨middle, late, rfl, property, uncovered⟩
  · cases middle with
    | nil => exact Or.inl ⟨[], late, same.symm, property, uncovered⟩
    | cons head rest =>
        obtain ⟨rfl, rfl⟩ := List.cons.inj same
        exact Or.inr ⟨early, rest, rfl, property,
          fun other member => uncovered other (List.mem_append_left second member)⟩

theorem IsLast.exists_of_flatMap {α β : Type} {holds : β → Prop} {items : List α}
    {itemsOf : α → List β} {item : β}
    (last : IsLast holds (items.flatMap itemsOf) item) :
    ∃ source ∈ items, IsLast holds (itemsOf source) item := by
  induction items with
  | nil => cases last.mem
  | cons first rest inductionHypothesis =>
      rw [List.flatMap_cons] at last
      rcases last.of_append with later | inFirst
      · obtain ⟨source, member, found⟩ := inductionHypothesis later
        exact ⟨source, List.mem_cons_of_mem first member, found⟩
      · exact ⟨first, List.mem_cons_self, inFirst⟩

theorem exists_isLast {α : Type} {holds : α → Prop} {items : List α}
    (present : ∃ item ∈ items, holds item) :
    ∃ last, IsLast holds items last := by
  induction items with
  | nil =>
      obtain ⟨item, member, _⟩ := present
      cases member
  | cons first rest inductionHypothesis =>
      by_cases later : ∃ item ∈ rest, holds item
      · obtain ⟨last, early, late, rfl, found⟩ := inductionHypothesis later
        exact ⟨last, first :: early, late, rfl, found⟩
      · obtain ⟨item, member, property⟩ := present
        rcases List.mem_cons.mp member with rfl | restMember
        · exact ⟨item, [], rest, rfl, property,
            fun other otherMember otherProperty =>
              later ⟨other, otherMember, otherProperty⟩⟩
        · exact False.elim (later ⟨item, restMember, property⟩)

/-- Among decisive rules the last one that covers a request decides it. -/
theorem lastDecision?_of_isLast {rules : List Rule} {rule : Rule}
    (decisive : rule.IsDecisive)
    (last : IsLast (fun rule => rule.trigger.Covers request) rules rule) :
    lastDecision? request rules = rule.action.decision? := by
  obtain ⟨early, late, rfl, covers, uncovered⟩ := last
  have silent : lastDecision? request late = none :=
    lastDecision?_eq_none.mpr fun other member =>
      Rule.decision?_of_not_covers (uncovered other member)
  rw [lastDecision?_append, lastDecision?, silent, Option.none_or,
    Rule.decision?_of_covers covers]
  rcases decisive with blocks | ignores
  · rw [blocks]
    rfl
  · rw [ignores]
    rfl

theorem lastDecision?_of_uncovered {rules : List Rule}
    (uncovered : ∀ rule ∈ rules, ¬ rule.trigger.Covers request) :
    lastDecision? request rules = none :=
  lastDecision?_eq_none.mpr fun rule member =>
    Rule.decision?_of_not_covers (uncovered rule member)

/-- Rules leave a decision as it is if and only if the last rule about the request makes it
again, or there is none. -/
theorem getD_lastDecision?_eq_iff {rules : List Rule} {decision : Decision}
    (decisive : ∀ rule ∈ rules, rule.IsDecisive) :
    (lastDecision? request rules).getD decision = decision ↔
      ∀ last, IsLast (fun rule => rule.trigger.Covers request) rules last →
        last.action.decision? = some decision := by
  constructor
  · intro kept last isLast
    have lastDecisive := decisive last isLast.mem
    rw [lastDecision?_of_isLast lastDecisive isLast] at kept
    rcases lastDecisive with blocks | ignores
    · rw [blocks] at kept ⊢
      exact congrArg some kept
    · rw [ignores] at kept ⊢
      exact congrArg some kept
  · intro alike
    by_cases present : ∃ rule ∈ rules, rule.trigger.Covers request
    · obtain ⟨last, isLast⟩ := exists_isLast present
      rw [lastDecision?_of_isLast (decisive last isLast.mem) isLast, alike last isLast]
      rfl
    · have uncovered : ∀ rule ∈ rules, ¬ rule.trigger.Covers request := by
        intro rule member covers
        exact present ⟨rule, member, covers⟩
      rw [lastDecision?_of_uncovered uncovered]
      rfl

end RuleList

end ContentBlocking
