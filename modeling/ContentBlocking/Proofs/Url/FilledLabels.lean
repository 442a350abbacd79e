import Mathlib.Logic.Function.Iterate
import ContentBlocking.Proofs.Url.PageDomains

/-!
# Hosts with empty labels

Between two dots, and in front of the first or behind the last character, a host may have labels
that are empty. The first time a label is dropped they all go, so from then on labels that are not
empty are dropped one after the other, and each time the host loses a dot.
-/

namespace ContentBlocking.Url

variable {host label : List Char} {parts : List (List Char)}

def filledLabels (host : List Char) : List (List Char) :=
  (labels host).filter (fun label => !label.isEmpty)

def withoutEmptyLabels (host : List Char) : List Char := ofLabels (filledLabels host)

/-! ## Labels and dots -/

theorem labels_nil : labels [] = [[]] := List.splitOn_nil '.'

theorem dot_not_mem_of_mem_labels (member : label ∈ labels host) : '.' ∉ label := by
  induction host generalizing label with
  | nil =>
      rw [labels_nil, List.mem_singleton] at member
      rw [member]
      exact List.not_mem_nil
  | cons c rest inductionHypothesis =>
      by_cases dot : c = '.'
      · subst dot
        rw [labels_dot, List.mem_cons] at member
        rcases member with rfl | behind
        · exact List.not_mem_nil
        · exact inductionHypothesis behind
      · rw [labels, List.splitOn_cons_eq_if_modifyHead, if_neg (by simpa using dot), ← labels]
          at member
        cases split : labels rest with
        | nil => exact absurd split (List.splitOn_ne_nil _ _)
        | cons first others =>
            rw [split, List.modifyHead_cons, List.mem_cons] at member
            rcases member with rfl | behind
            · have inFirst : '.' ∉ first := inductionHypothesis (split ▸ List.mem_cons_self)
              simp [inFirst, Ne.symm dot]
            · exact inductionHypothesis (split ▸ List.mem_cons_of_mem first behind)

theorem labels_ofLabels (dotless : ∀ label ∈ parts, '.' ∉ label) (present : parts ≠ []) :
    labels (ofLabels parts) = parts :=
  List.splitOn_intercalate '.' dotless present

theorem count_dot_add_one (host : List Char) : host.count '.' + 1 = (labels host).length := by
  induction host with
  | nil => rfl
  | cons c rest inductionHypothesis =>
      by_cases dot : c = '.'
      · subst dot
        rw [labels_dot, List.count_cons_self, List.length_cons, inductionHypothesis]
      · rw [labels, List.splitOn_cons_eq_if_modifyHead, if_neg (by simpa using dot),
          List.length_modifyHead, ← labels, ← inductionHypothesis, List.count_cons_of_ne dot]

/-! ## Filled labels -/

theorem filledLabels_eq_labels (filled : [] ∉ labels host) : filledLabels host = labels host := by
  refine List.filter_eq_self.mpr fun label member => ?_
  cases label with
  | nil => exact absurd member filled
  | cons c rest => rfl

theorem withoutEmptyLabels_eq_self (filled : [] ∉ labels host) : withoutEmptyLabels host = host := by
  rw [withoutEmptyLabels, filledLabels_eq_labels filled, ofLabels_labels]

theorem nil_not_mem_filledLabels (host : List Char) : [] ∉ filledLabels host := by
  intro member
  exact absurd (List.mem_filter.mp member).2 Bool.false_ne_true

theorem dot_not_mem_of_mem_filledLabels (member : label ∈ filledLabels host) : '.' ∉ label :=
  dot_not_mem_of_mem_labels (List.mem_filter.mp member).1

theorem filledLabels_ofLabels (dotless : ∀ label ∈ parts, '.' ∉ label) (filled : [] ∉ parts) :
    filledLabels (ofLabels parts) = parts := by
  by_cases present : parts = []
  · subst present
    rfl
  · have kept : labels (ofLabels parts) = parts := labels_ofLabels dotless present
    rw [filledLabels_eq_labels (kept.symm ▸ filled), kept]

/-! ## Dropping labels -/

/-- Shortening a host drops the first of its labels that is not empty. -/
theorem filledLabels_dropLabel (host : List Char) :
    filledLabels (dropLabel host) = (filledLabels host).drop 1 := by
  refine filledLabels_ofLabels (fun label member => ?_) fun member => ?_
  · exact dot_not_mem_of_mem_filledLabels (List.mem_of_mem_drop member)
  · exact nil_not_mem_filledLabels host (List.mem_of_mem_drop member)

/-- What remains of a host when its empty labels and the first others are left out. -/
theorem dropLabel_iterate (host : List Char) (count : Nat) :
    dropLabel^[count + 1] host = ofLabels ((filledLabels host).drop (count + 1)) := by
  induction count generalizing host with
  | zero => rfl
  | succ count inductionHypothesis =>
      rw [Function.iterate_succ_apply, inductionHypothesis, filledLabels_dropLabel, List.drop_drop,
        Nat.add_comm 1 (count + 1)]

/-- Empty labels that are dropped with the first other one leave nothing behind. -/
theorem dropLabel_withoutEmptyLabels (host : List Char) :
    dropLabel (withoutEmptyLabels host) = dropLabel host := by
  have kept : filledLabels (withoutEmptyLabels host) = filledLabels host :=
    filledLabels_ofLabels (fun _ member => dot_not_mem_of_mem_filledLabels member)
      (nil_not_mem_filledLabels host)
  exact congrArg (fun parts => ofLabels (parts.drop 1)) kept

theorem count_dot_dropLabel_lt (dotted : '.' ∈ host) :
    (dropLabel host).count '.' < host.count '.' := by
  have dots := count_dot_add_one host
  have fewer : (filledLabels host).length ≤ (labels host).length := List.length_filter_le _ _
  by_cases nothing : (filledLabels host).drop 1 = []
  · have empty : dropLabel host = [] := congrArg ofLabels nothing
    rw [empty]
    exact List.count_pos_iff.mpr dotted
  · have dotless : ∀ label ∈ (filledLabels host).drop 1, '.' ∉ label := by
      intro label member
      exact dot_not_mem_of_mem_filledLabels (List.mem_of_mem_drop member)
    have left : labels (dropLabel host) = (filledLabels host).drop 1 := labels_ofLabels dotless nothing
    have dotsLeft := count_dot_add_one (dropLabel host)
    rw [left, List.length_drop] at dotsLeft
    omega

theorem dot_not_mem_dropLabel (single : '.' ∉ host) : '.' ∉ dropLabel host := by
  have one : (labels host).tail = [] := tail_labels_eq_nil_iff.mpr single
  have fewer : (filledLabels host).length ≤ (labels host).length := List.length_filter_le _ _
  have nothing : (filledLabels host).drop 1 = [] := by
    have length := congrArg List.length one
    rw [List.length_tail, List.length_nil] at length
    exact List.drop_eq_nil_of_le (by omega)
  have empty : dropLabel host = [] := congrArg ofLabels nothing
  rw [empty]
  exact List.not_mem_nil

/-- Without empty labels, dropping a label leaves those behind the first. -/
theorem labels_dropLabel (filled : [] ∉ labels host) (dotted : '.' ∈ host) :
    labels (dropLabel host) = (labels host).tail := by
  have behind : (labels host).tail ≠ [] := by
    intro nothing
    exact tail_labels_eq_nil_iff.mp nothing dotted
  have dropped : dropLabel host = ofLabels (labels host).tail := by
    have kept := filledLabels_eq_labels filled
    rw [← List.drop_one, ← kept]
    rfl
  rw [dropped]
  exact labels_ofLabels
    (fun _ member => dot_not_mem_of_mem_labels (List.mem_of_mem_tail member)) behind

end ContentBlocking.Url
