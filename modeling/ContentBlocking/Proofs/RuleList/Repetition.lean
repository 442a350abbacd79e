import Mathlib.Data.List.Induction
import Mathlib.Data.List.Nodup
import ContentBlocking.Compile.Tracker
import ContentBlocking.Proofs.RuleList.Decision

/-!
# Leaving out repetitions

Of equal members only the first is kept, so without repetitions the last word is with the rule that
is the last to occur for the first time. With repetitions it is with the last rule. A replay decides
the same in both cases if these two rules do the same.
-/

namespace ContentBlocking.RuleList

/-! ## Members and order -/

section Members

variable {α : Type} [DecidableEq α]

theorem mem_distinct {item : α} {items : List α} :
    item ∈ distinct items ↔ item ∈ items := by
  induction items with
  | nil => rfl
  | cons first rest inductionHypothesis =>
      rw [distinct, List.mem_cons, List.mem_cons, List.mem_filter, inductionHypothesis]
      by_cases same : item = first
      · simp [same]
      · simp [same]

theorem nodup_distinct (items : List α) : (distinct items).Nodup := by
  induction items with
  | nil => exact List.nodup_nil
  | cons first rest inductionHypothesis =>
      have absent : first ∉ (distinct rest).filter fun other => other ≠ first := by simp
      exact List.nodup_cons.mpr ⟨absent, inductionHypothesis.filter _⟩

/-- Behind other items, what is not among these is kept. -/
theorem distinct_append (early late : List α) :
    distinct (early ++ late) =
      distinct early ++ (distinct late).filter (fun item => item ∉ early) := by
  induction early with
  | nil => simp [distinct]
  | cons first rest inductionHypothesis =>
      rw [List.cons_append, distinct, distinct, inductionHypothesis, List.filter_append,
        List.filter_filter, List.cons_append]
      have joined : ∀ item : α,
          (decide (item ≠ first) && decide (item ∉ rest)) =
            decide (item ∉ first :: rest) := by
        intro item
        simp [not_or]
      simp only [joined]

/-- Where a function keeps members apart, the same ones are left out before and after it. -/
theorem distinct_map {β : Type} [DecidableEq β] {f : α → β} {items : List α}
    (apart : ∀ left ∈ items, ∀ right ∈ items, f left = f right → left = right) :
    distinct (items.map f) = (distinct items).map f := by
  induction items with
  | nil => rfl
  | cons first rest inductionHypothesis =>
      have restApart : ∀ left ∈ rest, ∀ right ∈ rest, f left = f right → left = right := by
        intro left leftMember right rightMember
        exact apart left (List.mem_cons_of_mem first leftMember) right
          (List.mem_cons_of_mem first rightMember)
      have sameKept : ∀ other ∈ distinct rest,
          decide (f other ≠ f first) = decide (other ≠ first) := by
        intro other member
        have inRest := List.mem_cons_of_mem first (mem_distinct.mp member)
        have apartFromFirst : f other = f first ↔ other = first :=
          ⟨apart other inRest first List.mem_cons_self, congrArg f⟩
        exact decide_eq_decide.mpr (not_congr apartFromFirst)
      rw [List.map_cons, distinct, distinct, inductionHypothesis restApart, List.filter_map,
        List.map_cons]
      exact congrArg (fun kept => f first :: kept.map f) (List.filter_congr sameKept)

/-- What has no property can be dropped before or after leaving out repetitions. -/
theorem filter_distinct (holds : α → Bool) (items : List α) :
    (distinct items).filter holds = distinct (items.filter holds) := by
  induction items with
  | nil => rfl
  | cons first rest inductionHypothesis =>
      have swapped : ((distinct rest).filter fun other => other ≠ first).filter holds =
          (distinct (rest.filter holds)).filter fun other => other ≠ first := by
        rw [← inductionHypothesis, List.filter_filter, List.filter_filter]
        exact List.filter_congr fun other _ => Bool.and_comm _ _
      by_cases kept : holds first = true
      · rw [distinct, List.filter_cons_of_pos kept, List.filter_cons_of_pos kept, swapped, distinct]
      · rw [distinct, List.filter_cons_of_neg kept, List.filter_cons_of_neg kept, swapped]
        apply List.filter_eq_self.mpr
        intro other member
        have holdsOther := (List.mem_filter.mp (mem_distinct.mp member)).2
        apply decide_eq_true
        intro same
        exact kept (same ▸ holdsOther)

/-- Nothing is left out if there are no repetitions. -/
theorem distinct_eq_self {items : List α} (once : items.Nodup) :
    distinct items = items := by
  induction items with
  | nil => rfl
  | cons first rest inductionHypothesis =>
      obtain ⟨absent, restOnce⟩ := List.nodup_cons.mp once
      rw [distinct, inductionHypothesis restOnce, List.filter_eq_self.mpr]
      intro other member
      have different : other ≠ first := by
        intro same
        exact absent (same ▸ member)
      exact decide_eq_true different

end Members

/-! ## The last rule to occur for the first time -/

/-- `item` has the property and stands there for the first time, and behind it nothing with the
property stands there for the first time. -/
def IsNewest {α : Type} (holds : α → Prop) (items : List α) (item : α) : Prop :=
  ∃ early late,
    items = early ++ item :: late ∧ holds item ∧ item ∉ early ∧
      ∀ other ∈ late, holds other → other ∈ early ∨ other = item

section Newest

variable {α : Type} [DecidableEq α] {holds : α → Prop} {items : List α}

theorem exists_isNewest (present : ∃ item ∈ items, holds item) :
    ∃ newest, IsNewest holds items newest := by
  -- The list is built up from the front, so that the last item may be the newest.
  induction items using List.reverseRecOn with
  | nil =>
      obtain ⟨item, member, _⟩ := present
      cases member
  | append_singleton items last inductionHypothesis =>
      by_cases new : holds last ∧ last ∉ items
      · exact ⟨last, items, [], rfl, new.1, new.2, by simp⟩
      · have earlier : holds last → last ∈ items := by
          intro property
          by_contra absent
          exact new ⟨property, absent⟩
        have before : ∃ item ∈ items, holds item := by
          obtain ⟨item, member, property⟩ := present
          rcases List.mem_append.mp member with inside | atEnd
          · exact ⟨item, inside, property⟩
          · have same : item = last := List.mem_singleton.mp atEnd
            subst same
            exact ⟨item, earlier property, property⟩
        obtain ⟨newest, early, late, rfl, property, absent, old⟩ := inductionHypothesis before
        refine ⟨newest, early, late ++ [last], by simp, property, absent, ?_⟩
        intro other member otherProperty
        rcases List.mem_append.mp member with inside | atEnd
        · exact old other inside otherProperty
        · have same : other = last := List.mem_singleton.mp atEnd
          subst same
          rcases List.mem_append.mp (earlier otherProperty) with inEarly | inRest
          · exact Or.inl inEarly
          · rcases List.mem_cons.mp inRest with isNewest | inLate
            · exact Or.inr isNewest
            · exact old other inLate otherProperty

/-- Without repetitions the newest item is the last one. -/
theorem IsNewest.isLast_distinct {newest : α} (isNewest : IsNewest holds items newest) :
    IsLast holds (distinct items) newest := by
  obtain ⟨early, late, rfl, property, absent, old⟩ := isNewest
  refine ⟨distinct early, (distinct late).filter (fun item => item ∉ early ++ [newest]), ?_,
    property, ?_⟩
  · rw [List.append_cons, distinct_append, distinct_append, List.append_cons]
    simp [distinct, absent]
  · intro other member otherProperty
    obtain ⟨inLate, notBefore⟩ := List.mem_filter.mp member
    have before := old other (mem_distinct.mp inLate) otherProperty
    simp at notBefore
    rcases before with inEarly | isNewest
    · exact notBefore.1 inEarly
    · exact notBefore.2 isNewest

end Newest

/-! ## Decisions without repetitions -/

section Decisions

variable {request : Request} {rules : List Rule}

/-- Leaving out repetitions changes a decision if and only if the last rule about the request and
the last one to occur for the first time do different things. -/
theorem decision_distinct_iff (earlier : List Rule)
    (decisive : ∀ rule ∈ rules, rule.IsDecisive) :
    (verdict (earlier ++ distinct rules) request).decision =
        (verdict (earlier ++ rules) request).decision ↔
      ∀ last newest,
        IsLast (fun rule => rule.trigger.Covers request) rules last →
          IsNewest (fun rule => rule.trigger.Covers request) rules newest →
            last.action = newest.action := by
  have decided : ∀ last, IsLast (fun rule => rule.trigger.Covers request) rules last →
      last.IsDecisive ∧ lastDecision? request rules = last.action.decision? := by
    intro last isLast
    have lastDecisive := decisive last isLast.mem
    exact ⟨lastDecisive, lastDecision?_of_isLast lastDecisive isLast⟩
  have kept : ∀ newest, IsNewest (fun rule => rule.trigger.Covers request) rules newest →
      newest.IsDecisive ∧
        lastDecision? request (distinct rules) = newest.action.decision? := by
    intro newest isNewest
    have newestLast := isNewest.isLast_distinct
    have newestDecisive := decisive newest (mem_distinct.mp newestLast.mem)
    exact ⟨newestDecisive, lastDecision?_of_isLast newestDecisive newestLast⟩
  rw [decision_verdict_append, decision_verdict_append]
  constructor
  · intro same last newest isLast isNewest
    obtain ⟨lastDecisive, lastDecides⟩ := decided last isLast
    obtain ⟨newestDecisive, newestDecides⟩ := kept newest isNewest
    rw [newestDecides, lastDecides] at same
    exact ((newestDecisive.decision?_eq_iff lastDecisive).mp same).symm
  · intro alike
    by_cases present : ∃ rule ∈ rules, rule.trigger.Covers request
    · obtain ⟨last, isLast⟩ := exists_isLast present
      obtain ⟨newest, isNewest⟩ := exists_isNewest present
      rw [(decided last isLast).2, (kept newest isNewest).2,
        alike last newest isLast isNewest]
    · have uncovered : ∀ rule ∈ rules, ¬ rule.trigger.Covers request := by
        intro rule member covers
        exact present ⟨rule, member, covers⟩
      have stillUncovered : ∀ rule ∈ distinct rules, ¬ rule.trigger.Covers request := by
        intro rule member
        exact uncovered rule (mem_distinct.mp member)
      rw [lastDecision?_of_uncovered uncovered, lastDecision?_of_uncovered stillUncovered]

end Decisions

end ContentBlocking.RuleList
