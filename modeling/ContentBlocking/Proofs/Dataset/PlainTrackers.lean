import ContentBlocking.Proofs.Dataset.Placements
import ContentBlocking.Proofs.Filter.DomainTree
import ContentBlocking.Proofs.RuleList.Decision
import ContentBlocking.Proofs.Tracker.Rules

/-!
# Datasets without rules for patterns

If no tracker has rules, every place of a tracker has a block and an exemption for popups at most.
An exemption cancels the blocks of other places too, but only for requests that no place blocks. So
the order of the places does not matter.
-/

namespace ContentBlocking.Dataset

variable {dataset : Dataset} {request : Request}

/-- A tracker without rules of its own gives its default rules only. -/
theorem placedRules_eq_defaultRules {placement : Placement}
    (plain : placement.tracker.rules = none ∨ placement.tracker.rules = some []) :
    dataset.placedRules placement =
      placement.tracker.defaultRules placement.loadTypes
        (dataset.ownerEntries placement.tracker) := by
  have noRules : placement.tracker.ruleList = [] := by
    rw [Tracker.ruleList]
    rcases plain with absent | empty
    · rw [absent]
      rfl
    · rw [empty]
      rfl
  simp [placedRules, compileTracker, Tracker.groupedRules, Tracker.ruleGroups, noRules,
    RuleList.distinct]

/-- Without rules for patterns the blocks of all places act on their own: a request is blocked if
and only if it is for no popup of the top frame and reaches the block of some place. -/
theorem blocks_buildRules_iff_exists_placement
    (plain : ∀ tracker ∈ dataset.trackers.values,
      tracker.rules = none ∨ tracker.rules = some []) :
    (RuleList.verdict (dataset.buildRules {}) request).decision = .block ↔
      ¬ request.IsTopFramePopup ∧
        ∃ placement ∈ dataset.placements,
          placement.tracker.DefaultsReach placement.loadTypes request ∧
            ¬ request.IsFromOwner (dataset.ownerEntries placement.tracker) := by
  have placed : ∀ placement ∈ dataset.placements,
      RuleList.lastDecision? request (dataset.placedRules placement) =
        if placement.tracker.DefaultsReach placement.loadTypes request then
          if request.IsTopFramePopup then some .allow
          else if request.IsFromOwner (dataset.ownerEntries placement.tracker) then none
          else some .block
        else none := by
    intro placement member
    obtain ⟨tracker, isTracker, same⟩ := exists_rules_eq_of_mem_placements member
    rw [placedRules_eq_defaultRules (same ▸ plain tracker isTracker),
      Tracker.lastDecision?_defaultRules_eq]
  have decided : (RuleList.verdict (dataset.buildRules {}) request).decision = .block ↔
      RuleList.lastDecision? request (dataset.placements.flatMap dataset.placedRules) =
        some .block := by
    rw [RuleList.decision_verdict, buildRules_eq_flatMap]
    cases RuleList.lastDecision? request (dataset.placements.flatMap dataset.placedRules) <;>
      simp
  rw [decided]
  by_cases popup : request.IsTopFramePopup
  · constructor
    · intro blocked
      obtain ⟨placement, member, blocks⟩ :=
        RuleList.exists_of_lastDecision?_flatMap blocked
      rw [placed placement member, if_pos popup] at blocks
      split_ifs at blocks
      cases blocks
    · intro ⟨noPopup, _⟩
      exact absurd popup noPopup
  · have unopposed : ∀ placement ∈ dataset.placements, ∀ other,
        RuleList.lastDecision? request (dataset.placedRules placement) = some other →
          other = .block := by
      intro placement member other decides
      rw [placed placement member, if_neg popup] at decides
      split_ifs at decides
      exact (Option.some.inj decides).symm
    rw [RuleList.lastDecision?_flatMap_eq_some_iff unopposed]
    constructor
    · intro ⟨placement, member, blocks⟩
      rw [placed placement member, if_neg popup] at blocks
      split_ifs at blocks with reached fromOwner
      exact ⟨popup, placement, member, reached, fromOwner⟩
    · intro ⟨_, placement, member, reached, foreign⟩
      refine ⟨placement, member, ?_⟩
      rw [placed placement member, if_pos reached, if_neg popup, if_neg foreign]

/-- Without rules for patterns a request is blocked if and only if it is for no popup of the top
frame and a tracker that blocks by default is met on its own domain, by a load of a third party, or
behind an alias, and not from a page of its owner. -/
theorem blocks_buildRules_iff_of_plain
    (plain : ∀ tracker ∈ dataset.trackers.values,
      tracker.rules = none ∨ tracker.rules = some [])
    (request : Request) :
    (RuleList.verdict (dataset.buildRules {}) request).decision = .block ↔
      ¬ request.IsTopFramePopup ∧
        (((∀ known ∈ request.loadType, known = .thirdParty) ∧
            ∃ tracker ∈ dataset.trackers.values,
              tracker.isBlocking = true ∧
                (∃ domain ∈ tracker.domain,
                  Filter.Matches (Filter.ofDomain domain) request.url) ∧
                ¬ request.IsFromOwner (dataset.ownerEntries tracker)) ∨
          ∃ entry ∈ dataset.aliases, ∃ tracker ∈ dataset.findTracker? entry.2,
            tracker.isBlocking = true ∧
              Filter.Matches (Filter.ofDomain entry.1) request.url ∧
              ¬ request.IsFromOwner (dataset.ownerEntries tracker)) := by
  have ownDomain : ∀ tracker : Tracker, tracker.DefaultsReach trackerLoadTypes request ↔
      (∀ known ∈ request.loadType, known = .thirdParty) ∧
        tracker.isBlocking = true ∧
          ∃ domain ∈ tracker.domain,
            Filter.Matches (Filter.ofDomain domain) request.url := by
    intro tracker
    simp only [Tracker.DefaultsReach, trackerLoadTypes, List.mem_singleton]
    rw [← and_assoc, and_comm]
  have aliased : ∀ (tracker : Tracker) (name : String),
      (tracker.withDomain name).DefaultsReach cnameLoadTypes request ↔
        tracker.isBlocking = true ∧ Filter.Matches (Filter.ofDomain name) request.url := by
    intro tracker name
    have sameTreatment : (tracker.withDomain name).isBlocking = tracker.isBlocking := rfl
    have newDomain : (tracker.withDomain name).domain = some name := rfl
    have everyLoadType : ∀ loadType : LoadType, loadType ∈ cnameLoadTypes := by
      intro loadType
      cases loadType <;> decide
    simp [Tracker.DefaultsReach, sameTreatment, newDomain, everyLoadType]
  have sameOwner : ∀ (tracker : Tracker) (name : String),
      dataset.ownerEntries (tracker.withDomain name) = dataset.ownerEntries tracker :=
    fun _ _ => rfl
  rw [blocks_buildRules_iff_exists_placement plain, exists_placement_iff]
  simp only [ownDomain, aliased, sameOwner, and_assoc]
  simp only [and_left_comm (b := ∀ known ∈ request.loadType, known = .thirdParty), exists_and_left]

/-- A tracker without an owner, and one below its domain that belongs to a shop. -/
def nestedTrackers : Dataset where
  trackers :=
    ⟨[("ad.com", { domain := some "ad.com", treatment := some .block }),
      ("cdn.ad.com",
        { domain := some "cdn.ad.com"
          treatment := some .block
          owner := some { name := some "Shop" }
          rules := some []
          resolvedOwner := some "Shop" })],
      List.pairwise_pair.mpr (by decide)⟩
  entities := ⟨[("Shop", { domains := some ["shop.com"] })], List.pairwise_singleton _ _⟩
  domains := ∅
  cnames := none

theorem ofDomain_matches_subdomain :
    Filter.Matches (Filter.ofDomain "ad.com") "http://cdn.ad.com/a" := by
  rw [Filter.matches_ofDomain_iff (by decide) (by decide +kernel), ← Pattern.occursIn_iff]
  decide +kernel

/-- The page is exempt from the lower tracker, but the upper one blocks all the same. -/
theorem blocks_nestedTrackers_from_shop :
    (∀ tracker ∈ nestedTrackers.trackers.values,
        tracker.rules = none ∨ tracker.rules = some []) ∧
      (RuleList.verdict (nestedTrackers.buildRules {})
        { url := "http://cdn.ad.com/a", page := "http://shop.com/",
          resourceType := some .popup, loadType := some .thirdParty,
          loadContext := some .childFrame }).decision = .block := by
  have plain : ∀ tracker ∈ nestedTrackers.trackers.values,
      tracker.rules = none ∨ tracker.rules = some [] := by
    decide
  refine ⟨plain, (blocks_buildRules_iff_of_plain plain _).mpr ⟨by decide, Or.inl ⟨by decide, ?_⟩⟩⟩
  refine ⟨{ domain := some "ad.com", treatment := some .block }, List.mem_cons_self, rfl,
    ⟨"ad.com", rfl, ofDomain_matches_subdomain⟩, ?_⟩
  decide

end ContentBlocking.Dataset
