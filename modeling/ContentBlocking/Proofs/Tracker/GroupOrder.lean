import ContentBlocking.Proofs.RuleList.FirstOccurrences
import ContentBlocking.Proofs.Tracker.Rules

/-!
# The order of groups

Every plan emits one, two or three rules, and sorting keeps groups of the same size in order. So the
rules of a tracker are its default rules and then what the groups of three rules emit, those of two
rules and those of one rule, each in the order of the tracker and without repetitions.
-/

namespace ContentBlocking

/-- A group has one, two or three rules. -/
theorem RuleContext.length_emit (context : RuleContext) (plan : Plan) :
    (context.emit plan).length = 1 ∨ (context.emit plan).length = 2 ∨
      (context.emit plan).length = 3 := by
  cases plan with
  | blocking plan => cases plan <;> simp [emit, emitBlocking]
  | ignoring plan => cases plan <;> simp [emit, emitIgnoring]

namespace Tracker

/-! ## Sorting by size -/

section Sorting

variable {α : Type} {groups : List (List α)}

/-- If whatever stands before a group with a property has it too, the groups with it come first. -/
theorem eq_filter_append_of_pairwise {holds : List α → Bool}
    (ordered : groups.Pairwise fun early late => holds late = true → holds early = true) :
    groups = groups.filter holds ++ groups.filter fun group => !holds group := by
  induction groups with
  | nil => rfl
  | cons first rest inductionHypothesis =>
      obtain ⟨before, restOrdered⟩ := List.pairwise_cons.mp ordered
      have split := inductionHypothesis restOrdered
      cases here : holds first with
      | true =>
          rw [List.filter_cons_of_pos here, List.filter_cons_of_neg (by simp [here]),
            List.cons_append, ← split]
      | false =>
          have nowhere : rest.filter holds = [] := by
            refine List.filter_eq_nil_iff.mpr fun group member present => ?_
            have onFirst := before group member present
            rw [here] at onFirst
            cases onFirst
          rw [nowhere, List.nil_append] at split
          rw [List.filter_cons_of_neg (by simp [here]), List.filter_cons_of_pos (by simp [here]),
            nowhere, List.nil_append, ← split]

theorem length_le_trans (first second third : List α)
    (notLarger : decide (second.length ≤ first.length) = true)
    (nextNotLarger : decide (third.length ≤ second.length) = true) :
    decide (third.length ≤ first.length) = true := by
  simp only [decide_eq_true_eq] at notLarger nextNotLarger ⊢
  omega

theorem length_le_total (left right : List α) :
    (decide (right.length ≤ left.length) || decide (left.length ≤ right.length)) = true := by
  simp only [Bool.or_eq_true, decide_eq_true_eq]
  omega

theorem pairwise_mergeSort_length (groups : List (List α)) :
    (groups.mergeSort fun left right => right.length ≤ left.length).Pairwise
      fun early late => late.length ≤ early.length :=
  (List.pairwise_mergeSort length_le_trans length_le_total groups).imp of_decide_eq_true

/-- Sorting keeps the order of groups of the same size. -/
theorem filter_mergeSort_length (groups : List (List α)) (size : Nat) :
    (groups.mergeSort fun left right => right.length ≤ left.length).filter
        (fun group => group.length = size) =
      groups.filter fun group => group.length = size := by
  have sameSize : (groups.filter fun group => group.length = size).Pairwise
      fun left right => decide (right.length ≤ left.length) = true := by
    refine List.pairwise_filter.mpr (List.pairwise_of_forall fun left right => ?_)
    simp only [decide_eq_true_eq]
    omega
  have kept : (groups.filter fun group => group.length = size).Sublist
      (groups.mergeSort fun left right => right.length ≤ left.length) :=
    List.sublist_mergeSort length_le_trans length_le_total sameSize List.filter_sublist
  have permuted := (List.mergeSort_perm groups fun left right => right.length ≤ left.length).filter
    fun group => group.length = size
  have again := kept.filter fun group => group.length = size
  simp only [List.filter_filter, Bool.and_self] at again
  exact (again.eq_of_length permuted.length_eq.symm).symm

/-- Groups in descending order of their sizes are those of the largest size, those of the next, and
so on. -/
theorem eq_flatMap_filter_of_descending {bound : Nat}
    (descending : groups.Pairwise fun early late => late.length ≤ early.length)
    (bounded : ∀ group ∈ groups, group.length < bound) :
    groups = (List.range bound).reverse.flatMap fun size =>
      groups.filter fun group => group.length = size := by
  induction bound generalizing groups with
  | zero => exact List.eq_nil_iff_forall_not_mem.mpr fun group member => nomatch bounded group member
  | succ bound inductionHypothesis =>
      have split : groups = groups.filter (fun group => group.length = bound) ++
          groups.filter fun group => !decide (group.length = bound) := by
        refine eq_filter_append_of_pairwise (descending.imp_of_mem fun earlyMember _ notLarger => ?_)
        have below := bounded _ earlyMember
        simp only [decide_eq_true_eq]
        omega
      have smaller := inductionHypothesis
        (descending.filter fun group => !decide (group.length = bound)) (by
          intro group member
          obtain ⟨inGroups, different⟩ := List.mem_filter.mp member
          have below := bounded group inGroups
          simp only [Bool.not_eq_true', decide_eq_false_iff_not] at different
          omega)
      have sameGroups : ∀ size ∈ (List.range bound).reverse,
          (groups.filter fun group => !decide (group.length = bound)).filter
              (fun group => group.length = size) =
            groups.filter fun group => group.length = size := by
        intro size inRange
        have different : size < bound := List.mem_range.mp (List.mem_reverse.mp inRange)
        rw [List.filter_filter]
        refine List.filter_congr fun group _ => ?_
        by_cases same : group.length = size
        · simp [same, Nat.ne_of_lt different]
        · simp [same]
      rw [List.range_succ, List.reverse_append, List.reverse_singleton, List.singleton_append,
        List.flatMap_cons, ← List.flatMap_congr sameGroups, ← smaller]
      exact split

/-- Sorted by size, groups of one size follow those of the next larger one. -/
theorem mergeSort_length_eq_flatMap {bound : Nat}
    (bounded : ∀ group ∈ groups, group.length < bound) :
    groups.mergeSort (fun left right => right.length ≤ left.length) =
      (List.range bound).reverse.flatMap fun size =>
        groups.filter fun group => group.length = size := by
  have sortedBounded : ∀ group ∈ groups.mergeSort (fun left right => right.length ≤ left.length),
      group.length < bound :=
    fun group member => bounded group (List.mem_mergeSort.mp member)
  have sorted := eq_flatMap_filter_of_descending (pairwise_mergeSort_length groups) sortedBounded
  simpa only [filter_mergeSort_length] using sorted

end Sorting

/-! ## Groups of a tracker -/

variable {tracker : Tracker} {loadTypes : List LoadType} {ownerDomains : Option (List String)}

/-- What the rules of a tracker emit whose groups have the given size. -/
def emittedOfSize (tracker : Tracker) (loadTypes : List LoadType)
    (ownerDomains : Option (List String)) (size : Nat) : List Rule :=
  tracker.ruleList.flatMap fun source =>
    match source.pattern with
    | none => []
    | some pattern =>
        let group := (RuleContext.mk (Filter.ofRulePattern pattern) loadTypes ownerDomains).emit
          (Plan.classify source tracker.isBlocking)
        if group.length = size then group else []

theorem flatten_filter_ruleGroups (tracker : Tracker) (loadTypes : List LoadType)
    (ownerDomains : Option (List String)) (size : Nat) :
    ((tracker.ruleGroups loadTypes ownerDomains).filter fun group => group.length = size).flatten =
      tracker.emittedOfSize loadTypes ownerDomains size := by
  rw [ruleGroups, emittedOfSize]
  induction tracker.ruleList with
  | nil => rfl
  | cons source rest inductionHypothesis =>
      rw [List.flatMap_cons, ← inductionHypothesis, List.filterMap_cons]
      cases hasPattern : source.pattern with
      | none => simp [RuleContext.ofRule?, hasPattern]
      | some pattern =>
          simp only [RuleContext.ofRule?, hasPattern, Option.map_some, List.filter_cons,
            decide_eq_true_eq]
          split <;> simp

theorem length_of_mem_ruleGroups {group : List Rule}
    (member : group ∈ tracker.ruleGroups loadTypes ownerDomains) :
    group.length = 1 ∨ group.length = 2 ∨ group.length = 3 := by
  obtain ⟨source, _, emitted⟩ := List.mem_filterMap.mp member
  obtain ⟨pattern, _, rfl⟩ := exists_pattern_of_emitted emitted
  exact RuleContext.length_emit _ _

/-- The groups of three rules come first, then those of two and those of one, each in the order of
the tracker. -/
theorem groupedRules_eq_append (tracker : Tracker) (loadTypes : List LoadType)
    (ownerDomains : Option (List String)) :
    tracker.groupedRules loadTypes ownerDomains =
      tracker.emittedOfSize loadTypes ownerDomains 3 ++
        tracker.emittedOfSize loadTypes ownerDomains 2 ++
          tracker.emittedOfSize loadTypes ownerDomains 1 := by
  have bounded : ∀ group ∈ tracker.ruleGroups loadTypes ownerDomains, group.length < 4 := by
    intro group member
    rcases length_of_mem_ruleGroups member with one | two | three <;> omega
  have noneEmpty : (tracker.ruleGroups loadTypes ownerDomains).filter
      (fun group => group.length = 0) = [] := by
    refine List.filter_eq_nil_iff.mpr fun group member => ?_
    rcases length_of_mem_ruleGroups member with one | two | three <;> simp [*]
  have sizes : (List.range 4).reverse = [3, 2, 1, 0] := rfl
  rw [groupedRules, mergeSort_length_eq_flatMap bounded, sizes]
  simp only [List.flatMap_cons, List.flatMap_nil, noneEmpty, List.append_nil,
    List.flatten_append, flatten_filter_ruleGroups, List.append_assoc]

/-- The groups consist of what the rules of the tracker emit that have a pattern. -/
theorem mem_groupedRules_iff {rule : Rule} :
    rule ∈ tracker.groupedRules loadTypes ownerDomains ↔
      ∃ source ∈ tracker.ruleList, ∃ pattern, source.pattern = some pattern ∧
        rule ∈ (RuleContext.mk (Filter.ofRulePattern pattern) loadTypes ownerDomains).emit
          (Plan.classify source tracker.isBlocking) := by
  refine ⟨exists_emit_of_mem_groupedRules, ?_⟩
  rintro ⟨source, listed, pattern, hasPattern, emitted⟩
  refine List.mem_flatten.mpr ⟨_, List.mem_mergeSort.mpr ?_, emitted⟩
  refine List.mem_filterMap.mpr ⟨source, listed, ?_⟩
  rw [RuleContext.ofRule?, hasPattern]
  rfl

/-- That the rules of a tracker consist of default rules and of others in the order of the groups.
-/
structure Arranges (tracker : Tracker) (loadTypes : List LoadType)
    (ownerDomains : Option (List String)) (defaults others : List Rule) : Prop where
  pair : ∀ domain, tracker.isBlocking = true → tracker.domain = some domain →
    defaults =
      [.block
          { urlFilter := Filter.ofDomain domain
            unlessDomain := ownerDomains
            loadType := some loadTypes },
        .ignorePrevious
          { urlFilter := Filter.ofDomain domain
            resourceType := some [.popup]
            loadType := some loadTypes
            loadContext := some [.topFrame] }]
  noPair : tracker.isBlocking = false ∨ tracker.domain = none → defaults = []
  order : others = RuleList.firstOccurrences
    (tracker.emittedOfSize loadTypes ownerDomains 3 ++
      tracker.emittedOfSize loadTypes ownerDomains 2 ++
        tracker.emittedOfSize loadTypes ownerDomains 1)
  members : ∀ rule, rule ∈ others ↔
    ∃ source ∈ tracker.ruleList, ∃ pattern, source.pattern = some pattern ∧
      rule ∈ (RuleContext.mk (Filter.ofRulePattern pattern) loadTypes ownerDomains).emit
        (Plan.classify source tracker.isBlocking)

theorem defaultRules_of_isBlocking {domain : String} (blocks : tracker.isBlocking = true)
    (known : tracker.domain = some domain) :
    tracker.defaultRules loadTypes ownerDomains =
      [(RuleContext.mk (Filter.ofDomain domain) loadTypes ownerDomains).block,
        (RuleContext.mk (Filter.ofDomain domain) loadTypes ownerDomains).allowTopFramePopups] := by
  rw [defaultRules, if_pos blocks, known]

theorem defaultRules_eq_nil (without : tracker.isBlocking = false ∨ tracker.domain = none) :
    tracker.defaultRules loadTypes ownerDomains = [] := by
  rcases without with ignores | unknown
  · rw [defaultRules, ignores]
    rfl
  · rw [defaultRules, unknown]
    split <;> rfl

end Tracker

/-- A compiled tracker has its default rules in front, and behind them what its rules emit, larger
groups first. -/
theorem Dataset.arranges_compileTracker (dataset : Dataset) (tracker : Tracker)
    (loadTypes : List LoadType) :
    ∃ defaults others,
      (dataset.compileTracker tracker loadTypes).rules = defaults ++ others ∧
        tracker.Arranges loadTypes (dataset.ownerEntries tracker) defaults others := by
  refine ⟨_, _, rfl, ?_⟩
  exact
    { pair := fun domain blocks known => Tracker.defaultRules_of_isBlocking blocks known
      noPair := Tracker.defaultRules_eq_nil
      order := by rw [RuleList.distinct_eq_firstOccurrences, Tracker.groupedRules_eq_append]
      members := fun rule => RuleList.mem_distinct.trans Tracker.mem_groupedRules_iff }

end ContentBlocking
