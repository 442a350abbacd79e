import ContentBlocking.Proofs.Dataset.PlainTrackers
import ContentBlocking.Proofs.SortedMap
import ContentBlocking.Proofs.Url.FilledLabels

/-!
# Searching the tracker of a host

A search looks up the host and then drops one label after the other while there is a dot. So it
ends, and its result is stored under the first text that is a key: for a host without empty labels
this is the longest of its domains that is one. Empty labels go together with the first other one,
so the host without them is never looked up, although all shorter texts are.
-/

namespace ContentBlocking.Dataset

variable {dataset : Dataset} {text : List Char} {rounds : Nat} {result : Option Tracker}

/-! ## Runs of a search -/

/-- A search for a text, the number of labels that it drops, and its result. It ends at a text
without a dot, and at one under which a tracker is stored. -/
inductive Search (dataset : Dataset) : List Char → Nat → Option Tracker → Prop where
  | single {text : List Char} (single : '.' ∉ text) : Search dataset text 0 none
  | found {text : List Char} {tracker : Tracker} (dotted : '.' ∈ text)
      (stored : dataset.trackers.get? (String.ofList text) = some tracker) :
      Search dataset text 0 (some tracker)
  | dropped {text : List Char} {rounds : Nat} {result : Option Tracker} (dotted : '.' ∈ text)
      (absent : dataset.trackers.get? (String.ofList text) = none)
      (rest : Search dataset (Url.dropLabel text) rounds result) :
      Search dataset text (rounds + 1) result

/-- Every search ends, since a text loses a dot whenever a label is dropped. -/
theorem exists_search (dataset : Dataset) (text : List Char) :
    ∃ rounds ≤ text.count '.',
      dataset.Search text rounds ((dataset.findFrom text).map Prod.snd) := by
  fun_induction findFrom dataset text with
  | case1 text dotted tracker stored => exact ⟨0, Nat.zero_le _, Search.found dotted stored⟩
  | case2 text dotted absent inductionHypothesis =>
      obtain ⟨rounds, few, rest⟩ := inductionHypothesis
      have fewer := Url.count_dot_dropLabel_lt dotted
      exact ⟨rounds + 1, by omega, Search.dropped dotted absent rest⟩
  | case3 text single => exact ⟨0, Nat.zero_le _, Search.single single⟩

/-! ## The first hit -/

/-- The tracker that is stored under a text. A text without a dot is not looked up. -/
def stored? (dataset : Dataset) (text : List Char) : Option Tracker :=
  if '.' ∈ text then dataset.trackers.get? (String.ofList text) else none

theorem stored?_of_single (single : '.' ∉ text) : dataset.stored? text = none := if_neg single

theorem stored?_of_dotted (dotted : '.' ∈ text) :
    dataset.stored? text = dataset.trackers.get? (String.ofList text) :=
  if_pos dotted

theorem dotted_of_stored? {tracker : Tracker} (stored : dataset.stored? text = some tracker) :
    '.' ∈ text := by
  by_contra single
  rw [stored?_of_single single] at stored
  cases stored

/-- Nothing is stored under what is left of a text without a dot. -/
theorem stored?_iterate_of_single (single : '.' ∉ text) (count : Nat) :
    dataset.stored? (Url.dropLabel^[count] text) = none := by
  apply stored?_of_single
  induction count generalizing text with
  | zero => exact single
  | succ count inductionHypothesis =>
      exact inductionHypothesis (Url.dot_not_mem_dropLabel single)

/-- A search finds what is stored under the text that remains in the end, and nothing is stored
under those before. If it finds nothing, nothing would be found by dropping more labels. -/
theorem Search.stored?_iterate (search : dataset.Search text rounds result) :
    dataset.stored? (Url.dropLabel^[rounds] text) = result ∧
      (∀ earlier < rounds, dataset.stored? (Url.dropLabel^[earlier] text) = none) ∧
      (result = none → ∀ count, dataset.stored? (Url.dropLabel^[count] text) = none) := by
  induction search with
  | single single =>
      exact ⟨stored?_of_single single, fun _ before => absurd before (Nat.not_lt_zero _),
        fun _ => stored?_iterate_of_single single⟩
  | found dotted stored =>
      exact ⟨(stored?_of_dotted dotted).trans stored,
        fun _ before => absurd before (Nat.not_lt_zero _), fun nothing => nomatch nothing⟩
  | dropped dotted absent rest inductionHypothesis =>
      obtain ⟨last, before, nowhere⟩ := inductionHypothesis
      have first := (stored?_of_dotted dotted).trans absent
      refine ⟨last, fun earlier isEarlier => ?_, fun nothing count => ?_⟩
      · cases earlier with
        | zero => exact first
        | succ earlier => exact before earlier (Nat.lt_of_succ_lt_succ isEarlier)
      · cases count with
        | zero => exact first
        | succ count => exact nowhere nothing count

/-- A search returns what is stored under the first of the shortened hosts under which anything is.
-/
theorem findTracker?_eq_some_iff_iterate {host : String} {tracker : Tracker} :
    dataset.findTracker? host = some tracker ↔
      ∃ count, dataset.stored? (Url.dropLabel^[count] host.toList) = some tracker ∧
        ∀ earlier < count, dataset.stored? (Url.dropLabel^[earlier] host.toList) = none := by
  obtain ⟨rounds, _, search⟩ := dataset.exists_search host.toList
  obtain ⟨last, before, nowhere⟩ := search.stored?_iterate
  constructor
  · intro found
    exact ⟨rounds, last.trans found, before⟩
  · rintro ⟨count, stored, absent⟩
    have same : count = rounds := by
      rcases Nat.lt_trichotomy count rounds with less | same | more
      · rw [before count less] at stored
        cases stored
      · exact same
      · -- Behind the last text of the search something is stored only if the search found something.
        have nothing := nowhere (last.symm.trans (absent rounds more)) count
        rw [nothing] at stored
        cases stored
    rw [same] at stored
    exact last.symm.trans stored

/-- A search returns nothing exactly if nothing is stored under any of the shortened hosts. -/
theorem findTracker?_eq_none_iff_iterate {host : String} :
    dataset.findTracker? host = none ↔
      ∀ count, dataset.stored? (Url.dropLabel^[count] host.toList) = none := by
  obtain ⟨rounds, _, search⟩ := dataset.exists_search host.toList
  obtain ⟨last, _, nowhere⟩ := search.stored?_iterate
  exact ⟨nowhere, fun absent => last.symm.trans (absent rounds)⟩

/-! ## Hosts without empty labels -/

/-- Without empty labels a search goes through the domains of the host. -/
theorem findFrom_eq_findSome? (dataset : Dataset) {host : List Char}
    (filled : [] ∉ Url.labels host) :
    (dataset.findFrom host).map Prod.snd =
      (Url.domainsOfLabels (Url.labels host)).findSome? fun domain =>
        dataset.trackers.get? (String.ofList domain) := by
  fun_induction findFrom dataset host with
  | case1 host dotted tracker stored =>
      rw [Url.domainsOfLabels_labels, if_pos dotted, List.findSome?_cons, stored]
      rfl
  | case2 host dotted absent inductionHypothesis =>
      have behind := Url.labels_dropLabel filled dotted
      have stillFilled : [] ∉ Url.labels (Url.dropLabel host) := by
        rw [behind]
        exact fun member => filled (List.mem_of_mem_tail member)
      rw [inductionHypothesis stillFilled, behind, Url.domainsOfLabels_labels host, if_pos dotted,
        List.findSome?_cons, absent]
  | case3 host single =>
      rw [Url.domainsOfLabels_labels, if_neg single]
      rfl

/-- For a host without empty labels, a search goes through the domains of the host, longest first.
-/
theorem findTracker?_eq_findSome?_domainsOfHost (dataset : Dataset) {host : String}
    (filled : [] ∉ Url.labels host.toList) :
    dataset.findTracker? host = (Url.domainsOfHost host).findSome? dataset.trackers.get? := by
  rw [Url.domainsOfHost, List.findSome?_map]
  exact dataset.findFrom_eq_findSome? filled

/-! ## The tracker of a host -/

/-- The text that is looked up for a host after some labels were dropped: at first the host itself,
and then what remains of its labels that are not empty. -/
def candidate (host : List Char) : Nat → List Char
  | 0 => host
  | count + 1 => Url.ofLabels ((Url.filledLabels host).drop (count + 1))

/-- Shortening a host again and again gives its candidates in turn. -/
theorem dropLabel_iterate_eq_candidate (host : List Char) (count : Nat) :
    Url.dropLabel^[count] host = candidate host count := by
  cases count with
  | zero => rfl
  | succ count => exact Url.dropLabel_iterate host count

/-- A search ends with the tracker that is stored under the first candidate for which there is one.
Without empty labels the candidates are the domains of the pages on the host. -/
theorem findTracker?_first_candidate (dataset : Dataset) (host : String) :
    (∃ rounds ≤ host.toList.count '.',
        dataset.Search host.toList rounds (dataset.findTracker? host)) ∧
      (∀ tracker, dataset.findTracker? host = some tracker ↔
        ∃ count, dataset.stored? (candidate host.toList count) = some tracker ∧
          ∀ earlier < count, dataset.stored? (candidate host.toList earlier) = none) ∧
      (dataset.findTracker? host = none ↔
        ∀ count, dataset.stored? (candidate host.toList count) = none) ∧
      ([] ∉ Url.labels host.toList → ∀ url, Url.host? url = some host →
        dataset.findTracker? host =
          ((Url.pageDomains? url).getD []).findSome? dataset.trackers.get?) := by
  refine ⟨dataset.exists_search host.toList, ?_, ?_, ?_⟩
  · intro tracker
    simp only [findTracker?_eq_some_iff_iterate, dropLabel_iterate_eq_candidate]
  · simp only [findTracker?_eq_none_iff_iterate, dropLabel_iterate_eq_candidate]
  · intro filled url found
    rw [Url.getD_pageDomains?_of_host? found]
    exact dataset.findTracker?_eq_findSome?_domainsOfHost filled

/-- A host below two trackers, one below the other, belongs to the lower one. -/
theorem findTracker?_nestedTrackers_below :
    [] ∉ Url.labels "img.cdn.ad.com".toList ∧
      Url.host? "http://img.cdn.ad.com/a" = some "img.cdn.ad.com" ∧
      nestedTrackers.findTracker? "img.cdn.ad.com" = nestedTrackers.trackers.get? "cdn.ad.com" := by
  have filled : [] ∉ Url.labels "img.cdn.ad.com".toList := by decide
  have host : Url.host? "http://img.cdn.ad.com/a" = some "img.cdn.ad.com" := by decide
  obtain ⟨_, _, _, ofPages⟩ := nestedTrackers.findTracker?_first_candidate "img.cdn.ad.com"
  refine ⟨filled, host, (ofPages filled "http://img.cdn.ad.com/a" host).trans ?_⟩
  decide

/-! ## Hosts with empty labels -/

theorem findFrom_of_stored?_eq_some {tracker : Tracker}
    (stored : dataset.stored? text = some tracker) :
    dataset.findFrom text = some (String.ofList text, tracker) := by
  have dotted := dotted_of_stored? stored
  rw [stored?_of_dotted dotted] at stored
  rw [findFrom, dif_pos dotted, stored]

theorem findFrom_of_stored?_eq_none (absent : dataset.stored? text = none) :
    dataset.findFrom text = dataset.findFrom (Url.dropLabel text) := by
  by_cases dotted : '.' ∈ text
  · rw [stored?_of_dotted dotted] at absent
    rw [findFrom, dif_pos dotted, absent]
  · rw [findFrom, dif_neg dotted, findFrom, dif_neg (Url.dot_not_mem_dropLabel dotted)]

/-- The key that a search finds has no more dots than the text. -/
theorem count_dot_le_of_findFrom {entry : String × Tracker}
    (found : dataset.findFrom text = some entry) :
    entry.1.toList.count '.' ≤ text.count '.' := by
  fun_induction findFrom dataset text with
  | case1 text dotted tracker stored =>
      cases found
      exact Nat.le_of_eq (congrArg (List.count '.') String.toList_ofList)
  | case2 text dotted absent inductionHypothesis =>
      have fewer := Url.count_dot_dropLabel_lt dotted
      have few := inductionHypothesis found
      omega
  | case3 text single => cases found

/-- If no key has empty labels, nothing is stored under a text that has some. -/
theorem stored?_of_nil_mem_labels
    (filledKeys : ∀ key ∈ dataset.trackers.keys, [] ∉ Url.labels key.toList)
    (empty : [] ∈ Url.labels text) :
    dataset.stored? text = none := by
  by_cases dotted : '.' ∈ text
  · rw [stored?_of_dotted dotted]
    cases stored : dataset.trackers.get? (String.ofList text) with
    | none => rfl
    | some tracker =>
        have filled := filledKeys _ (SortedMap.mem_keys_of_get? stored)
        rw [String.toList_ofList] at filled
        exact absurd empty filled
  · exact stored?_of_single dotted

/-- Where keys have no empty labels, a host with empty labels has the tracker of what remains when
the first other label is dropped with them. So it has that of the host without them unless this is
itself a key. -/
theorem findEntry?_withoutEmptyLabels_iff
    (filledKeys : ∀ key ∈ dataset.trackers.keys, [] ∉ Url.labels key.toList) (host : String) :
    ([] ∈ Url.labels host.toList →
        dataset.findEntry? host =
          dataset.findEntry? (String.ofList (Url.dropLabel host.toList))) ∧
      (dataset.findEntry? host =
          dataset.findEntry? (String.ofList (Url.withoutEmptyLabels host.toList)) ↔
        ([] ∈ Url.labels host.toList →
          dataset.stored? (Url.withoutEmptyLabels host.toList) = none)) := by
  have dropped : [] ∈ Url.labels host.toList →
      dataset.findFrom host.toList = dataset.findFrom (Url.dropLabel host.toList) := by
    intro empty
    exact findFrom_of_stored?_eq_none (stored?_of_nil_mem_labels filledKeys empty)
  simp only [String.toList_ofList, findEntry?]
  refine ⟨dropped, ?_⟩
  by_cases empty : [] ∈ Url.labels host.toList
  · rw [dropped empty]
    cases stored : dataset.stored? (Url.withoutEmptyLabels host.toList) with
    | none =>
        rw [findFrom_of_stored?_eq_none stored, Url.dropLabel_withoutEmptyLabels]
        exact iff_of_true rfl fun _ => rfl
    | some tracker =>
        rw [findFrom_of_stored?_eq_some stored]
        refine iff_of_false (fun same => ?_) (fun absent => Option.some_ne_none _ (absent empty))
        -- The key behind the first label has fewer dots than the host.
        have few := count_dot_le_of_findFrom same
        have dotted := dotted_of_stored? stored
        have fewer := Url.count_dot_dropLabel_lt dotted
        rw [Url.dropLabel_withoutEmptyLabels] at fewer
        rw [String.toList_ofList] at few
        omega
  · rw [Url.withoutEmptyLabels_eq_self empty]
    exact iff_of_true rfl fun member => absurd member empty

/-- A dot behind the host of the lower tracker leads to the upper one. -/
theorem findEntry?_nestedTrackers_endingDot :
    (∀ key ∈ nestedTrackers.trackers.keys, [] ∉ Url.labels key.toList) ∧
      nestedTrackers.findEntry? "cdn.ad.com." = nestedTrackers.findEntry? "ad.com" := by
  have filledKeys : ∀ key ∈ nestedTrackers.trackers.keys, [] ∉ Url.labels key.toList := by decide
  obtain ⟨dropped, _⟩ := findEntry?_withoutEmptyLabels_iff filledKeys "cdn.ad.com."
  exact ⟨filledKeys, dropped (by decide)⟩

/-- A dot behind the host of the upper tracker leads nowhere. -/
theorem findTracker?_endingDot_ne :
    (∀ key ∈ nestedTrackers.trackers.keys, [] ∉ Url.labels key.toList) ∧
      Url.withoutEmptyLabels "ad.com.".toList = "ad.com".toList ∧
      nestedTrackers.findTracker? "ad.com." = none ∧
      nestedTrackers.findTracker? "ad.com" = nestedTrackers.trackers.get? "ad.com" ∧
      nestedTrackers.trackers.get? "ad.com" ≠ none := by
  refine ⟨by decide, by decide, ?_, ?_, by decide⟩
  · decide +kernel
  · decide +kernel

end ContentBlocking.Dataset
