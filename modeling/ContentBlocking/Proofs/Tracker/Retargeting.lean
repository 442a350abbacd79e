import ContentBlocking.Proofs.Tracker.GroupOrder

/-!
# Trackers on another domain

A tracker that is compiled on another domain and for other load types gets the same rules as before.
Only the two default rules move to the URLs of the new domain, and all rules have the new load
types. What is left out as a repetition stays the same, because all load types of a tracker are
alike before and after.
-/

namespace ContentBlocking

def Rule.withLoadTypes (loadTypes : List LoadType) (rule : Rule) : Rule :=
  { rule with trigger := { rule.trigger with loadType := some loadTypes } }

def Rule.withFilter (filter : String) (rule : Rule) : Rule :=
  { rule with trigger := { rule.trigger with urlFilter := filter } }

theorem Rule.withLoadTypes_withLoadTypes {rule : Rule} {loadTypes : List LoadType}
    (has : rule.trigger.loadType = some loadTypes) (others : List LoadType) :
    (rule.withLoadTypes others).withLoadTypes loadTypes = rule := by
  rw [withLoadTypes, withLoadTypes, ← has]

/-- For other load types a plan emits the same rules with these. -/
theorem RuleContext.emit_withLoadTypes (filter : String) (ownerDomains : Option (List String))
    (loadTypes others : List LoadType) (plan : Plan) :
    (RuleContext.mk filter others ownerDomains).emit plan =
      ((RuleContext.mk filter loadTypes ownerDomains).emit plan).map
        (Rule.withLoadTypes others) := by
  have allowWhere : ∀ options,
      (RuleContext.mk filter others ownerDomains).allowWhere options =
        ((RuleContext.mk filter loadTypes ownerDomains).allowWhere options).withLoadTypes
          others := by
    intro options
    cases options <;> rfl
  cases plan with
  | blocking plan => cases plan <;> simp only [emit, emitBlocking, allowWhere] <;> rfl
  | ignoring plan => cases plan <;> simp only [emit, emitIgnoring, allowWhere] <;> rfl

namespace Tracker

variable {tracker : Tracker} {ownerDomains : Option (List String)}

theorem loadType_of_mem_groupedRules {rule : Rule} {loadTypes : List LoadType}
    (member : rule ∈ tracker.groupedRules loadTypes ownerDomains) :
    rule.trigger.loadType = some loadTypes := by
  obtain ⟨_, _, _, _, governs⟩ := governs_of_mem_groupedRules member
  exact governs.loadType

/-- Under other load types the same rules are left out as repetitions. -/
theorem distinct_groupedRules_withLoadTypes (tracker : Tracker)
    (ownerDomains : Option (List String)) (loadTypes others : List LoadType) :
    RuleList.distinct (tracker.groupedRules others ownerDomains) =
      (RuleList.distinct (tracker.groupedRules loadTypes ownerDomains)).map
        (Rule.withLoadTypes others) := by
  apply distinct_groupedRules_map (Rule.withLoadTypes loadTypes)
  · intro filter plan
    exact RuleContext.emit_withLoadTypes filter ownerDomains loadTypes others plan
  · intro rule member
    exact Rule.withLoadTypes_withLoadTypes (loadType_of_mem_groupedRules member) others

theorem repetitions_groupedRules_withLoadTypes (tracker : Tracker)
    (ownerDomains : Option (List String)) (loadTypes others : List LoadType) :
    RuleList.repetitions (tracker.groupedRules others ownerDomains) =
      RuleList.repetitions (tracker.groupedRules loadTypes ownerDomains) := by
  have sameGroups : tracker.groupedRules others ownerDomains =
      (tracker.groupedRules loadTypes ownerDomains).map (Rule.withLoadTypes others) :=
    groupedRules_map fun filter plan =>
      RuleContext.emit_withLoadTypes filter ownerDomains loadTypes others plan
  rw [RuleList.repetitions, distinct_groupedRules_withLoadTypes tracker ownerDomains loadTypes,
    sameGroups, List.length_map, List.length_map, RuleList.repetitions]

def defaultCount (tracker : Tracker) : Nat :=
  if tracker.isBlocking && tracker.domain.isSome then 2 else 0

theorem length_defaultRules (tracker : Tracker) (loadTypes : List LoadType)
    (ownerDomains : Option (List String)) :
    (tracker.defaultRules loadTypes ownerDomains).length = tracker.defaultCount := by
  rw [defaultRules, defaultCount]
  by_cases blocks : tracker.isBlocking = true
  · rw [if_pos blocks, blocks, Bool.true_and]
    cases tracker.domain <;> rfl
  · simp [blocks]

end Tracker

namespace Dataset

/-- Behind its default rules a tracker has the rules of its groups without repetitions. -/
theorem drop_rules_compileTracker (dataset : Dataset) (tracker : Tracker)
    (loadTypes : List LoadType) :
    (dataset.compileTracker tracker loadTypes).rules.drop tracker.defaultCount =
      RuleList.distinct (tracker.groupedRules loadTypes (dataset.ownerEntries tracker)) := by
  apply List.drop_left'
  exact tracker.length_defaultRules loadTypes (dataset.ownerEntries tracker)

theorem take_two_rules_compileTracker (dataset : Dataset) {tracker : Tracker} {domain : String}
    (blocks : tracker.isBlocking = true) (known : tracker.domain = some domain)
    (loadTypes : List LoadType) :
    (dataset.compileTracker tracker loadTypes).rules.take 2 =
      (RuleContext.mk (Filter.ofDomain domain) loadTypes
        (dataset.ownerEntries tracker)).emit (.ignoring .plain) := by
  rw [compileTracker, Tracker.defaultRules_of_isBlocking blocks known]
  rfl

/-- A tracker that is compiled on another domain and for other load types keeps the rules behind its
default rules but for the load types. The default rules also get the filter for the new domain, and
otherwise stay the same. -/
theorem compileTracker_withDomain (dataset : Dataset) (tracker : Tracker) (name : String)
    (loadTypes others : List LoadType) :
    (dataset.compileTracker (tracker.withDomain name) others).rules.drop
          (tracker.withDomain name).defaultCount =
        ((dataset.compileTracker tracker loadTypes).rules.drop tracker.defaultCount).map
          (Rule.withLoadTypes others) ∧
      (dataset.compileTracker (tracker.withDomain name) others).removed =
        (dataset.compileTracker tracker loadTypes).removed ∧
      ∀ domain, tracker.isBlocking = true → tracker.domain = some domain →
        ((dataset.compileTracker tracker loadTypes).rules.take 2).map
            (fun rule => rule.trigger.urlFilter) =
          [Filter.ofDomain domain, Filter.ofDomain domain] ∧
        (dataset.compileTracker (tracker.withDomain name) others).rules.take 2 =
          ((dataset.compileTracker tracker loadTypes).rules.take 2).map
            fun rule => (rule.withFilter (Filter.ofDomain name)).withLoadTypes others := by
  have sameOwner : dataset.ownerEntries (tracker.withDomain name) = dataset.ownerEntries tracker :=
    rfl
  have sameGroups : (tracker.withDomain name).groupedRules = tracker.groupedRules := rfl
  refine ⟨?_, ?_, ?_⟩
  · rw [drop_rules_compileTracker, drop_rules_compileTracker, sameOwner, sameGroups]
    exact tracker.distinct_groupedRules_withLoadTypes _ loadTypes others
  · rw [compileTracker, compileTracker, sameOwner, sameGroups]
    exact tracker.repetitions_groupedRules_withLoadTypes _ loadTypes others
  · intro domain blocks known
    have stillBlocks : (tracker.withDomain name).isBlocking = true := blocks
    rw [take_two_rules_compileTracker dataset blocks known,
      take_two_rules_compileTracker dataset stillBlocks rfl, sameOwner]
    exact ⟨rfl, rfl⟩

end Dataset

end ContentBlocking
