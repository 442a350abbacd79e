import ContentBlocking.Compile.Build
import ContentBlocking.Dataset.Wire
import ContentBlocking.Proofs.Json.Reordering
import ContentBlocking.Proofs.Json.RepeatedMembers

/-!
# The order of the members of a dataset

Every part of a dataset is decoded without regard to the order of members, so a dataset and all rule
lists built from it are the same for all texts that differ in nothing else. Of the members of a map
with the same name the last one counts.
-/

namespace ContentBlocking

open Json

/-! ## Every part of a dataset is decoded steadily -/

theorem steady_owner : Steady Owner.decode :=
  steady_record (by simp)
    ⟨steady_maybe steady_text, steady_maybe steady_text, steady_maybe steady_text⟩

theorem steady_entity : Steady Entity.decode :=
  steady_record (by simp)
    ⟨steady_maybe steady_text, steady_maybe (steady_list steady_text), steady_maybe steady_float⟩

theorem steady_restriction : Steady Restriction.decode :=
  steady_record (by simp)
    ⟨steady_maybe (steady_list steady_text), steady_maybe (steady_list steady_text)⟩

theorem steady_trackerRule : Steady TrackerRule.decode :=
  steady_record (by simp)
    ⟨steady_maybe steady_text, steady_maybe steady_text, steady_maybe (steady_named _),
      steady_maybe steady_restriction, steady_maybe steady_restriction⟩

theorem steady_tracker : Steady Tracker.decode :=
  steady_record (by simp)
    ⟨steady_maybe steady_text, steady_maybe (steady_named _), steady_maybe steady_owner,
      steady_maybe steady_float, steady_maybe (steady_list steady_text),
      steady_maybe (steady_list steady_text), steady_maybe (steady_list steady_trackerRule)⟩

/-- What a dataset is decoded to does not depend on the order of members, at any level. -/
theorem steady_decodeParts : Steady Dataset.decodeParts :=
  steady_record (by simp)
    ⟨steady_needed (steady_map steady_tracker), steady_needed (steady_map steady_entity),
      steady_needed (steady_map steady_text), steady_maybe (steady_map steady_text)⟩

/-- The maps of a dataset are direct parts of its value, so repeated members may be left out of
them. -/
theorem replaceable_decodeParts {value other : Value} (leavesOut : value.LeavesOutInside other) :
    Replaceable Dataset.decodeParts value other := by
  apply replaceable_record_maps _ leavesOut
  intro members others ending inner
  exact ⟨replaceable_field (replaceable_map inner), replaceable_field (replaceable_map inner),
    replaceable_field (replaceable_map inner), replaceable_field (replaceable_optional_map inner)⟩

/-! ## Texts of datasets -/

/-- A dataset is read by decoding its parts and then looking up the owners of its trackers. -/
theorem ofString_eq_ok {text : String} {dataset : Dataset} :
    Dataset.ofString text = .ok dataset ↔
      ∃ parts, decodeText Dataset.decodeParts (Symbol.ofString text) = .ok parts ∧
        parts.resolve = dataset := by
  rw [Dataset.ofString, Decoded.map_eq_ok]
  constructor
  · rintro ⟨loaded, found, rfl⟩
    obtain ⟨parts, decoded, same⟩ := Decoded.bind_eq_ok.mp found
    cases same
    exact ⟨parts, decoded, rfl⟩
  · rintro ⟨parts, decoded, rfl⟩
    exact ⟨_, Decoded.bind_eq_ok.mpr ⟨parts, decoded, rfl⟩, rfl⟩

/-- The order of the members of any object in the text of a dataset does not matter, as long as
members with the same name keep theirs: the dataset is the same, and with it every rule list built
from it. Of the members of a map with the same name only the last one matters. -/
theorem Dataset.ofString_reordered {text : String} {dataset : Dataset}
    (loaded : Dataset.ofString text = .ok dataset) :
    (∃ value, Spells (Symbol.ofString text) (.spaced value)) ∧
      (∀ other : String, Reorders (Symbol.ofString text) (Symbol.ofString other) →
        ∃ otherDataset, Dataset.ofString other = .ok otherDataset ∧ otherDataset = dataset ∧
          ∀ (overrides : Overrides) (layout : Layout),
            (RuleList.toDocument (otherDataset.buildRules overrides)).render layout =
              (RuleList.toDocument (dataset.buildRules overrides)).render layout) ∧
      ∀ other : String, LeavesOutRepeated (Symbol.ofString text) (Symbol.ofString other) →
        Dataset.ofString other = .ok dataset := by
  obtain ⟨parts, decoded, rfl⟩ := ofString_eq_ok.mp loaded
  refine ⟨exists_spells_of_decodeText fault?_of_record decoded, ?_, ?_⟩
  · intro other reordered
    have otherDecoded := decodeText_changed (fun rearranged => steady_decodeParts rearranged)
      reordered decoded
    exact ⟨parts.resolve, ofString_eq_ok.mpr ⟨parts, otherDecoded, rfl⟩, rfl, fun _ _ => rfl⟩
  · intro other leavesOut
    have otherDecoded := decodeText_changed replaceable_decodeParts leavesOut decoded
    exact ofString_eq_ok.mpr ⟨parts, otherDecoded, rfl⟩

/-! ### A repeated tracker -/

def repeatedAds : Document :=
  .object
    [("trackers", .object
       [("ads.example", .object []),
        ("ads.example", .object [("domain", .text "ads.example"), ("default", .text "block")])]),
     ("entities", .object []), ("domains", .object [])]

/-- The same with the members of the document and of the second tracker in another order. -/
def reorderedAds : Document :=
  .object
    [("entities", .object []),
     ("trackers", .object
       [("ads.example", .object []),
        ("ads.example", .object [("default", .text "block"), ("domain", .text "ads.example")])]),
     ("domains", .object [])]

/-- The same with only the second tracker. -/
def lastAds : Document :=
  .object
    [("trackers", .object
       [("ads.example", .object [("domain", .text "ads.example"), ("default", .text "block")])]),
     ("entities", .object []), ("domains", .object [])]

def blockedAds : Dataset :=
  ⟨.ofList [("ads.example", { domain := some "ads.example", treatment := some .block })],
    ∅, ∅, none⟩

theorem ofString_repeatedAds :
    Dataset.ofString (repeatedAds.render .compact) = .ok blockedAds := by
  have numberless : repeatedAds.Numberless := by
    simp [repeatedAds, Document.Numberless, MembersNumberless]
  have decoded : Dataset.decodeParts repeatedAds.value = .ok blockedAds := by rfl
  have spelled := spells_render .compact numberless
  exact ofString_eq_ok.mpr ⟨blockedAds, (decodeText_of_spells spelled).trans decoded, rfl⟩

theorem reorders_ads :
    Reorders (Symbol.ofString (repeatedAds.render .compact))
      (Symbol.ofString (reorderedAds.render .compact)) := by
  have numberless : repeatedAds.Numberless := by
    simp [repeatedAds, Document.Numberless, MembersNumberless]
  have otherNumberless : reorderedAds.Numberless := by
    simp [reorderedAds, Document.Numberless, MembersNumberless]
  have apart : "trackers" ≠ "entities" := by decide
  have apartInside : "domain" ≠ "default" := by decide
  refine ⟨_, _, spells_render _ numberless, spells_render _ otherNumberless,
    .head (rearranges_swap apart _ _ _ _) (.single ?_)⟩
  exact @Value.Rearranges.member [_] _ _ _ _ _
    (@Value.Rearranges.member [_] _ _ _ _ _ (rearranges_swap apartInside _ _ _ _))

theorem leavesOutRepeated_ads :
    LeavesOutRepeated (Symbol.ofString (repeatedAds.render .compact))
      (Symbol.ofString (lastAds.render .compact)) := by
  have numberless : repeatedAds.Numberless := by
    simp [repeatedAds, Document.Numberless, MembersNumberless]
  have otherNumberless : lastAds.Numberless := by
    simp [lastAds, Document.Numberless, MembersNumberless]
  have named : ∀ value, isNamed "ads.example" (.ofString "ads.example", value) = true :=
    fun value => isNamed_iff.mpr (decode_ofString _)
  refine ⟨_, _, spells_render _ numberless, spells_render _ otherNumberless, .single ?_⟩
  exact @Value.LeavesOutInside.member [] _ _ _ _ _ _
    (@LeavesOut.repeated [] _ _ _ _ (named _) List.mem_cons_self (named _))

theorem ofString_reordered_ads :
    Dataset.ofString (repeatedAds.render .compact) = .ok blockedAds ∧
      Dataset.ofString (reorderedAds.render .compact) = .ok blockedAds ∧
      Dataset.ofString (lastAds.render .compact) = .ok blockedAds := by
  have whole := Dataset.ofString_reordered ofString_repeatedAds
  obtain ⟨_, reordered, rfl, _⟩ := whole.2.1 _ reorders_ads
  exact ⟨ofString_repeatedAds, reordered, whole.2.2 _ leavesOutRepeated_ads⟩

end ContentBlocking
