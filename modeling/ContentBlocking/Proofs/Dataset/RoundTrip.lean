import ContentBlocking.Compile.Overrides
import ContentBlocking.Dataset.Wire
import ContentBlocking.Proofs.Json.RoundTrip
import ContentBlocking.Proofs.SortedMap

/-!
# Datasets survive their text

The text of a dataset does not say which owners are known, so reading it back has to find this out
again. Everything else is there, and what is absent stays apart from what is empty.
-/

namespace ContentBlocking

open Json

variable {α β : Type}

/-! ## Maps -/

/-- The entries of a map are read back one by one, each behind the ones before it. -/
theorem readEntries_value {write : α → Document} {decode : Decoder β} {meaning : α → β}
    {whole : SortedMap β} (entries : List (String × α))
    (stands : ∀ entry ∈ entries, (write entry.2).StandsFor decode (meaning entry.2)) :
    ∀ map : SortedMap β,
      map.entries ++ entries.map (fun entry => (entry.1, meaning entry.2)) = whole.entries →
        readEntries decode map (memberValues (entries.map fun entry => (entry.1, write entry.2))) =
          .ok whole := by
  induction entries with
  | nil =>
      intro map complete
      have same : map = whole := SortedMap.ext_entries (by simpa using complete)
      rw [same]
      rfl
  | cons entry entries inductionHypothesis =>
      intro map complete
      have here := (stands entry List.mem_cons_self).decoded
      have others := inductionHypothesis fun other member =>
        stands other (List.mem_cons_of_mem entry member)
      have below : ∀ earlier ∈ map.entries, earlier.1 < entry.1 := by
        intro earlier member
        have sorted := complete ▸ whole.sorted
        exact (List.pairwise_append.mp sorted).2.2 earlier member (entry.1, meaning entry.2)
          (by simp)
      have inserted : (map.insert entry.1 (meaning entry.2)).entries =
          map.entries ++ [(entry.1, meaning entry.2)] := SortedMap.insertEntry_last _ below
      simp only [List.map_cons, memberValues, readEntries, orFault_decode]
      simp only [bind, Except.bind, here]
      apply others
      rw [inserted, ← complete]
      simp

theorem ofMap_standsFor {write : α → Document} {decode : Decoder β} {meaning : α → β}
    {map : SortedMap α}
    (stands : ∀ content ∈ map.values, (write content).StandsFor decode (meaning content)) :
    (Document.ofMap write map).StandsFor (Json.map decode)
      (map.mapEntries fun _ content => meaning content) where
  numberless := by
    simp only [Document.ofMap, Document.Numberless, membersNumberless_iff, List.forall_mem_map]
    exact fun entry member => (stands entry.2 (List.mem_map_of_mem member)).numberless
  decoded := by
    have entries : readEntries decode ∅ _ = .ok (map.mapEntries fun _ content => meaning content) :=
      readEntries_value map.entries
        (fun entry member => stands entry.2 (List.mem_map_of_mem member)) ∅ rfl
    simp only [Document.ofMap, Document.value, Json.map, entries]
    rfl

theorem texts_ofMap_standsFor (map : SortedMap String) :
    (Document.ofMap .text map).StandsFor (Json.map text) map := by
  have stands : ∀ content ∈ map.values, (Document.text content).StandsFor text content :=
    fun content _ => text_standsFor content
  have mapped := ofMap_standsFor stands
  rwa [SortedMap.mapEntries_self] at mapped

/-! ## Trackers and entities -/

theorem treatment_standsFor (treatment : Treatment) :
    treatment.toDocument.StandsFor Treatment.decode treatment := by
  have found : Treatment.byName.lookup treatment.name = some treatment := by
    cases treatment <;> decide
  exact named_standsFor found

theorem entity_standsFor {entity : Entity} (unmeasured : entity.prevalence = none) :
    entity.toDocument.StandsFor Entity.decode entity := by
  have prevalence : ∀ meaning ∈ entity.prevalence,
      (Document.number meaning).StandsFor float meaning := by simp [unmeasured]
  refine Fills.standsFor (.append (.append
    (.maybe (fun meaning _ => text_standsFor meaning) rfl ?_ rfl)
    (.maybe (fun meaning _ => texts_standsFor meaning) rfl ?_ rfl))
    (.maybe prevalence rfl ?_ rfl)) ?_ rfl
  all_goals simp [RecordField.maybe]

theorem owner_standsFor (owner : Owner) : owner.toDocument.StandsFor Owner.decode owner := by
  refine Fills.standsFor (.append (.append
    (.maybe (fun meaning _ => text_standsFor meaning) rfl ?_ rfl)
    (.maybe (fun meaning _ => text_standsFor meaning) rfl ?_ rfl))
    (.maybe (fun meaning _ => text_standsFor meaning) rfl ?_ rfl)) ?_ rfl
  all_goals simp [RecordField.maybe]

theorem restriction_standsFor (restriction : Restriction) :
    restriction.toDocument.StandsFor Restriction.decode restriction := by
  refine Fills.standsFor (.append
    (.maybe (fun meaning _ => texts_standsFor meaning) rfl ?_ rfl)
    (.maybe (fun meaning _ => texts_standsFor meaning) rfl ?_ rfl)) ?_ rfl
  all_goals simp [RecordField.maybe]

theorem trackerRule_standsFor (rule : TrackerRule) :
    rule.toDocument.StandsFor TrackerRule.decode rule := by
  refine Fills.standsFor (.append (.append (.append (.append
    (.maybe (fun meaning _ => text_standsFor meaning) rfl ?_ rfl)
    (.maybe (fun meaning _ => text_standsFor meaning) rfl ?_ rfl))
    (.maybe (fun meaning _ => treatment_standsFor meaning) rfl ?_ rfl))
    (.maybe (fun meaning _ => restriction_standsFor meaning) rfl ?_ rfl))
    (.maybe (fun meaning _ => restriction_standsFor meaning) rfl ?_ rfl)) ?_ rfl
  all_goals simp [RecordField.maybe]

/-- A tracker as it is before its owner is looked up. -/
def Tracker.unresolved (tracker : Tracker) : Tracker := { tracker with resolvedOwner := none }

/-- A tracker without a prevalence is read back as it is before its owner is looked up. -/
theorem tracker_standsFor {tracker : Tracker} (unmeasured : tracker.prevalence = none) :
    tracker.toDocument.StandsFor Tracker.decode tracker.unresolved := by
  have prevalence : ∀ meaning ∈ tracker.prevalence,
      (Document.number meaning).StandsFor float meaning := by simp [unmeasured]
  have rules : ∀ meaning, (Document.list TrackerRule.toDocument meaning).StandsFor
      (list TrackerRule.decode) meaning := fun meaning =>
    list_standsFor fun rule _ => trackerRule_standsFor rule
  refine Fills.standsFor (.append (.append (.append (.append (.append (.append
    (.maybe (fun meaning _ => text_standsFor meaning) rfl ?_ rfl)
    (.maybe (fun meaning _ => treatment_standsFor meaning) rfl ?_ rfl))
    (.maybe (fun meaning _ => owner_standsFor meaning) rfl ?_ rfl))
    (.maybe prevalence rfl ?_ rfl))
    (.maybe (fun meaning _ => texts_standsFor meaning) rfl ?_ rfl))
    (.maybe (fun meaning _ => texts_standsFor meaning) rfl ?_ rfl))
    (.maybe (fun meaning _ => rules meaning) rfl ?_ rfl)) ?_ rfl
  all_goals simp [RecordField.maybe]

/-! ## Datasets -/

def Dataset.unresolved (dataset : Dataset) : Dataset :=
  { dataset with trackers := dataset.trackers.mapEntries fun _ tracker => tracker.unresolved }

/-- Datasets without prevalences are read back but for the owners, which are looked up afterwards.
-/
theorem dataset_standsFor {dataset : Dataset}
    (trackersUnmeasured : ∀ tracker ∈ dataset.trackers.values, tracker.prevalence = none)
    (entitiesUnmeasured : ∀ entity ∈ dataset.entities.values, entity.prevalence = none) :
    dataset.toDocument.StandsFor Dataset.decodeParts dataset.unresolved := by
  have trackers : (Document.ofMap Tracker.toDocument dataset.trackers).StandsFor
      (Json.map Tracker.decode) dataset.unresolved.trackers :=
    ofMap_standsFor fun tracker member => tracker_standsFor (trackersUnmeasured tracker member)
  have entities : (Document.ofMap Entity.toDocument dataset.entities).StandsFor
      (Json.map Entity.decode) dataset.entities := by
    have mapped := ofMap_standsFor fun entity member =>
      entity_standsFor (entitiesUnmeasured entity member)
    rwa [SortedMap.mapEntries_self] at mapped
  refine Fills.standsFor (.append (.append (.append
    (.needed trackers rfl ?_)
    (.needed entities rfl ?_))
    (.needed (texts_ofMap_standsFor dataset.domains) rfl ?_))
    (.maybe (fun meaning _ => texts_ofMap_standsFor meaning) rfl ?_ rfl)) ?_ rfl
  all_goals simp [RecordField.needed, RecordField.maybe]

/-- Whether the owner of a tracker was looked up before makes no difference. -/
theorem resolve_unresolved_ofParts (trackers : SortedMap Tracker) (entities : SortedMap Entity)
    (domains : SortedMap String) (cnames : Option (SortedMap String)) :
    (Dataset.ofParts trackers entities domains cnames).unresolved.resolve =
      Dataset.ofParts trackers entities domains cnames := by
  have same :
      ((trackers.mapEntries fun _ tracker => Dataset.resolveOwner entities tracker).mapEntries
        fun _ tracker => tracker.unresolved).mapEntries
          (fun _ tracker => Dataset.resolveOwner entities tracker) =
        trackers.mapEntries fun _ tracker => Dataset.resolveOwner entities tracker := by
    apply SortedMap.ext_entries
    simp only [SortedMap.mapEntries, List.map_map]
    rfl
  simp only [Dataset.ofParts, Dataset.unresolved, Dataset.resolve, same]

theorem ofString_of_standsFor {dataset parts : Dataset}
    (stands : dataset.toDocument.StandsFor Dataset.decodeParts parts) (layout : Layout) :
    Dataset.ofString (dataset.toDocument.render layout) = .ok parts.resolve := by
  have decoded := stands.decodeString_render layout
  rw [decodeString] at decoded
  simp only [Dataset.ofString, Dataset.load, decoded]
  rfl

/-! ## Allowlists -/

theorem reach_standsFor (reach : Reach) : reach.toDocument.StandsFor Reach.decode reach := by
  cases reach with
  | all => exact choice_standsFor_bare rfl
  | domains pages =>
      have stands := texts_standsFor pages
      have listed : (Document.texts pages).StandsFor
          (fun value => (list text value).map Reach.domains) (.domains pages) := by
        refine ⟨stands.numberless, ?_⟩
        simp only [stands.decoded]
        rfl
      exact choice_standsFor_filled rfl listed
  | none => exact choice_standsFor_bare rfl

theorem allowlistEntry_standsFor (entry : AllowlistEntry) :
    entry.toDocument.StandsFor AllowlistEntry.decode entry := by
  refine Fills.standsFor (.append (.needed (text_standsFor entry.rule) rfl ?_)
    (.needed (reach_standsFor entry.reach) rfl ?_)) ?_ rfl
  all_goals simp [RecordField.needed]

/-! ## Round trips -/

/-- A dataset whose owners have been looked up is what its text is read as, and an allowlist is
what its text is decoded as. Prevalences are numbers and are left out. -/
theorem Dataset.ofString_toDocument (layout : Layout) (trackers : SortedMap Tracker)
    (entities : SortedMap Entity) (domains : SortedMap String)
    (cnames : Option (SortedMap String))
    (trackersUnmeasured : ∀ tracker ∈
      (Dataset.ofParts trackers entities domains cnames).trackers.values,
        tracker.prevalence = none)
    (entitiesUnmeasured : ∀ entity ∈
      (Dataset.ofParts trackers entities domains cnames).entities.values,
        entity.prevalence = none) :
    Dataset.ofString ((Dataset.ofParts trackers entities domains cnames).toDocument.render layout) =
        .ok (Dataset.ofParts trackers entities domains cnames) ∧
      ∀ entries : List AllowlistEntry,
        decodeString Allowlist.decode ((Allowlist.toDocument entries).render layout) =
          .ok entries := by
  constructor
  · have stands := dataset_standsFor trackersUnmeasured entitiesUnmeasured
    rw [ofString_of_standsFor stands layout, resolve_unresolved_ofParts]
  · intro entries
    have stands : (Allowlist.toDocument entries).StandsFor Allowlist.decode entries :=
      list_standsFor fun entry _ => allowlistEntry_standsFor entry
    exact stands.decodeString_render layout

/-- A tracker with an owner, an empty list, and a rule with an empty restriction. -/
def ownedTrackers : SortedMap Tracker :=
  .ofList
    [("ads.example",
      { domain := some "ads.example", treatment := some .block,
        owner := some { name := some "Ads \"Inc\"" }, categories := some [],
        rules := some [{ pattern := some "ads\\.example/x", options := some {} }] })]

def owningEntities : SortedMap Entity :=
  .ofList [("Ads \"Inc\"", { domains := some ["ads.example", "shop.example"] })]

theorem ofString_toDocument_owned :
    (∀ tracker ∈ (Dataset.ofParts ownedTrackers owningEntities ∅ (some ∅)).trackers.values,
        tracker.prevalence = none) ∧
      (∀ entity ∈ (Dataset.ofParts ownedTrackers owningEntities ∅ (some ∅)).entities.values,
        entity.prevalence = none) ∧
      Dataset.ofString
          ((Dataset.ofParts ownedTrackers owningEntities ∅ (some ∅)).toDocument.render .pretty) =
        .ok (Dataset.ofParts ownedTrackers owningEntities ∅ (some ∅)) ∧
      decodeString Allowlist.decode
          ((Allowlist.toDocument [⟨"ads.example", .domains []⟩]).render .pretty) =
        .ok [⟨"ads.example", .domains []⟩] := by
  have trackersUnmeasured :
      ∀ tracker ∈ (Dataset.ofParts ownedTrackers owningEntities ∅ (some ∅)).trackers.values,
        tracker.prevalence = none := by decide
  have entitiesUnmeasured :
      ∀ entity ∈ (Dataset.ofParts ownedTrackers owningEntities ∅ (some ∅)).entities.values,
        entity.prevalence = none := by decide
  have whole := Dataset.ofString_toDocument .pretty ownedTrackers owningEntities ∅ (some ∅)
    trackersUnmeasured entitiesUnmeasured
  exact ⟨trackersUnmeasured, entitiesUnmeasured, whole.1, whole.2 _⟩

end ContentBlocking
