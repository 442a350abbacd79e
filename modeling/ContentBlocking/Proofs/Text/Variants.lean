import Mathlib.Data.List.MinMax
import ContentBlocking.Proofs.Text.Folding

/-!
# Characters that are alike

The variants of a character are listed by folding it and by searching the runs against their
direction. That finds every character that folds to the same one, because folding is done in one
step: no run covers what another run makes. What folding changes becomes a letter, so digits and
marks are alike to nothing but themselves. Few characters are alike, because few runs make the same
code points.
-/

namespace ContentBlocking

namespace Text

/-! ## What runs make -/

/-- Whether no run covers a code point from the first one to the last one. A run with even distances
may lie between them if they are an odd distance away from it. -/
def areMissed (first last : Nat) (even : Bool) : List FoldRun → Bool
  | [] => true
  | run :: rest =>
      last.blt run.first ||
        (run.last.blt first ||
            even && run.step.beq 2 && ((first - run.first) % 2).beq 1) &&
          areMissed first last even rest

theorem not_covers_of_areMissed {runs : List FoldRun} {first last code : Nat} {even : Bool}
    (inOrder : runs.Pairwise FoldRun.Before) (missed : areMissed first last even runs = true)
    (notBelow : first ≤ code) (notAbove : code ≤ last)
    (evenDistance : even = true → (code - first) % 2 = 0) :
    ∀ run ∈ runs, ¬ run.covers code = true := by
  induction runs with
  | nil => simp
  | cons run rest inductionHypothesis =>
      obtain ⟨before, restInOrder⟩ := List.pairwise_cons.mp inOrder
      intro other member covered
      have within := FoldRun.le_of_covers covered
      simp only [areMissed, Bool.or_eq_true, Bool.and_eq_true, Nat.blt_eq, Nat.beq_eq] at missed
      rcases missed with behind | ⟨apart, restMissed⟩
      · rcases List.mem_cons.mp member with same | later
        · subst same
          omega
        · have further := (before other later).1
          omega
      · rcases List.mem_cons.mp member with same | later
        · subst same
          rcases apart with below | ⟨⟨isEven, doubleStep⟩, odd⟩
          · omega
          · have distance := evenDistance isEven
            simp only [FoldRun.covers, Bool.and_eq_true, decide_eq_true_eq, doubleStep] at covered
            omega
        · exact inductionHypothesis restInOrder restMissed other later covered

/-- No run covers a code point to which a run sends another one. -/
theorem foldRuns_areMissed :
    foldRuns.all (fun run => areMissed (run.image run.first) (run.image run.last)
      (run.step = 2 || run.first = run.last) foldRuns) = true := by
  decide +kernel

/-- What a run makes is a character, and none below the letter `a`. -/
theorem foldRuns_image_valid :
    ∀ run ∈ foldRuns, 0x61 ≤ run.first + run.shift ∧ run.last + run.shift < 0x110000 ∧
      (run.last + run.shift < 0xd800 ∨ 0xdfff < run.first + run.shift) := by
  decide +kernel

theorem toNat_fold_of_covers {run : FoldRun} {c : Char} (member : run ∈ foldRuns)
    (covered : run.covers c.toNat = true) :
    ((fold c).toNat : Int) = c.toNat + run.shift ∧ 0x61 ≤ (fold c).toNat := by
  obtain ⟨letter, small, noSurrogate⟩ := foldRuns_image_valid run member
  have within := FoldRun.le_of_covers covered
  have image : (run.image c.toNat : Int) = c.toNat + run.shift := by
    rw [FoldRun.image]
    omega
  have isChar : (run.image c.toNat).isValidChar := by
    rw [Nat.isValidChar]
    omega
  have folded : (fold c).toNat = run.image c.toNat := by
    rw [fold, foldCode_of_covers foldRuns_pairwise member covered, Char.ofNat, dif_pos isChar]
    rfl
  rw [folded]
  omega

theorem le_toNat_fold_of_ne {c : Char} (changed : fold c ≠ c) : 0x61 ≤ (fold c).toNat := by
  obtain ⟨run, member, covered⟩ := exists_covers_of_fold_ne changed
  exact (toNat_fold_of_covers member covered).2

@[simp] theorem fold_fold (c : Char) : fold (fold c) = fold c := by
  by_cases unchanged : fold c = c
  · rw [unchanged, unchanged]
  · obtain ⟨run, member, covered⟩ := exists_covers_of_fold_ne unchanged
    have image := (toNat_fold_of_covers member covered).1
    have within := FoldRun.le_of_covers covered
    have letter := (foldRuns_image_valid run member).1
    have missed := List.all_eq_true.mp foldRuns_areMissed run member
    have evenDistance : (decide (run.step = 2) || decide (run.first = run.last)) = true →
        ((fold c).toNat - run.image run.first) % 2 = 0 := by
      intro regular
      rw [Bool.or_eq_true, decide_eq_true_eq, decide_eq_true_eq] at regular
      rw [FoldRun.image]
      rcases regular with doubleStep | single
      · simp only [FoldRun.covers, Bool.and_eq_true, decide_eq_true_eq, doubleStep] at covered
        omega
      · omega
    -- The folded character would have to be covered by a run, but no run covers what this one makes.
    by_contra changedAgain
    obtain ⟨other, otherMember, otherCovered⟩ := exists_covers_of_fold_ne changedAgain
    refine not_covers_of_areMissed foldRuns_pairwise missed ?_ ?_ evenDistance
      other otherMember otherCovered
    · rw [FoldRun.image]
      omega
    · rw [FoldRun.image]
      omega

/-! ## Variants -/

/-- A character that folding changes is listed among those that fold to the same one. -/
theorem mem_unfold_fold {c : Char} (changed : fold c ≠ c) : c ∈ unfold (fold c) := by
  obtain ⟨run, member, covered⟩ := exists_covers_of_fold_ne changed
  obtain ⟨image, letter⟩ := toNat_fold_of_covers member covered
  have source : run.source? (fold c).toNat = some c.toNat := by
    have sameCode : ((fold c).toNat - run.shift : Int).toNat = c.toNat := by
      omega
    simp only [FoldRun.source?, sameCode, covered, if_true]
  rw [unfold, if_neg (Nat.not_lt_of_le letter)]
  refine List.mem_filterMap.mpr ⟨run, member, ?_⟩
  rw [source, Option.map_some, Char.ofNat_toNat]

/-- The variants of a character are the characters that fold to the same one. -/
theorem mem_variants_iff {c other : Char} : other ∈ variants c ↔ fold other = fold c := by
  constructor
  · intro variant
    rcases List.mem_cons.mp variant with same | folded
    · rw [same]
    · rcases List.mem_cons.mp folded with isFolded | unfolded
      · rw [isFolded, fold_fold]
      · obtain ⟨_, _, _, sameFold⟩ := fold_of_mem_unfold unfolded
        exact sameFold
  · intro sameFold
    by_cases unchanged : fold other = other
    · rw [← unchanged, sameFold]
      exact List.mem_cons_of_mem c List.mem_cons_self
    · have found := mem_unfold_fold unchanged
      rw [sameFold] at found
      exact List.mem_cons_of_mem c (List.mem_cons_of_mem (fold c) found)

/-- Nothing else folds to a digit, to a capital letter or to an ASCII mark below them. -/
theorem eq_of_fold_eq {c mark : Char} (low : mark.toNat < 0x61) (folded : fold c = mark) :
    c = mark := by
  by_contra different
  have changed : fold c ≠ c := by
    rw [folded]
    exact fun same => different same.symm
  have letter := le_toNat_fold_of_ne changed
  rw [folded] at letter
  omega

/-! ## How many there are -/

/-- Whether a code point lies between the first and the last one that a run makes. -/
def FoldRun.reaches (run : FoldRun) (code : Nat) : Bool :=
  (run.image run.first).ble code && code.ble (run.image run.last)

theorem FoldRun.reaches_of_source? {run : FoldRun} {code source : Nat} (member : run ∈ foldRuns)
    (found : run.source? code = some source) : run.reaches code = true := by
  have letter := (foldRuns_image_valid run member).1
  have positive := (foldRuns_valid run member).1
  rw [source?] at found
  split at found
  · rename_i covered
    have within := le_of_covers covered
    simp only [reaches, image, Bool.and_eq_true, Nat.ble_eq]
    omega
  · cases found

theorem foldRuns_reach :
    foldRuns.all (fun run =>
      (foldRuns.countP (·.reaches (run.image run.first))).ble 3) = true := by
  decide +kernel

/-- Runs that reach the same code point all reach what the last of them makes first. -/
theorem countP_reaches_le (code : Nat) : foldRuns.countP (·.reaches code) ≤ 3 := by
  -- Only what the runs make first has to be looked at, so the table can be checked.
  cases chosen : (foldRuns.filter (·.reaches code)).argmax fun run => run.image run.first with
  | none =>
      rw [List.argmax_eq_none] at chosen
      rw [List.countP_eq_length_filter, chosen]
      exact Nat.zero_le 3
  | some run =>
      have member := List.mem_filter.mp (List.argmax_mem chosen)
      have few := List.all_eq_true.mp foldRuns_reach run member.1
      refine Nat.le_trans ?_ (Nat.le_of_ble_eq_true few)
      apply List.countP_mono_left
      intro other isRun reached
      have earlier := List.le_of_mem_argmax (List.mem_filter.mpr ⟨isRun, reached⟩) chosen
      have within := member.2
      simp only [FoldRun.reaches, Bool.and_eq_true, Nat.ble_eq] at reached within ⊢
      omega

theorem length_unfold_le (c : Char) : (unfold c).length ≤ 3 := by
  rw [unfold]
  split
  · exact Nat.zero_le 3
  · rw [List.length_filterMap_eq_countP]
    refine Nat.le_trans (List.countP_mono_left ?_) (countP_reaches_le c.toNat)
    intro run member found
    rw [Option.isSome_map, Option.isSome_iff_exists] at found
    obtain ⟨source, found⟩ := found
    exact FoldRun.reaches_of_source? member found

theorem length_variants_le (c : Char) : (variants c).length ≤ 5 := by
  have others := length_unfold_le (fold c)
  rw [variants, List.length_cons, List.length_cons]
  omega

end Text

namespace Pattern.Alphabet

open Text

/-- A closed set holds the characters that fold like one of its members. -/
theorem mem_closure_iff {set : CharSet} {c : Char} :
    (closure .unicode set).mem c = true ↔ ∃ known, set.mem known = true ∧ fold c = fold known := by
  rw [CharSet.mem, hasCode_closure_iff]
  constructor
  · rintro (member | ⟨known, member, variant, isVariant, same⟩)
    · exact ⟨c, member, rfl⟩
    · rw [Char.toNat_inj.mp same, mem_variants_iff] at isVariant
      exact ⟨known, member, isVariant⟩
  · rintro ⟨known, member, sameFold⟩
    exact Or.inr ⟨known, member, c, mem_variants_iff.mpr sameFold, rfl⟩

/-- If all members are folded already, the closure is decided by folding. -/
theorem mem_closure_iff_of_folded {set : CharSet} {c : Char}
    (folded : set.toList.all (fun known => fold known = known) = true) :
    (closure .unicode set).mem c = true ↔ set.mem (fold c) = true := by
  have steady : ∀ known, set.mem known = true → fold known = known := fun known member =>
    of_decide_eq_true (List.all_eq_true.mp folded known (CharSet.mem_toList_of_mem member))
  rw [mem_closure_iff]
  constructor
  · rintro ⟨known, member, sameFold⟩
    rw [sameFold, steady known member]
    exact member
  · intro member
    exact ⟨fold c, member, (fold_fold c).symm⟩

end Pattern.Alphabet

namespace Text

/-! ## Texts -/

/-- Texts that differ in case at most. -/
def SameText (left right : List Char) : Prop := left.map fold = right.map fold

instance (left right : List Char) : Decidable (SameText left right) :=
  inferInstanceAs (Decidable (_ = _))

theorem SameText.symm {left right : List Char} (same : SameText left right) :
    SameText right left :=
  Eq.symm same

/-- Marks and digits are found again in a text that differs in case at most. -/
theorem SameText.mem_of_mem {left right : List Char} {mark : Char} (same : SameText left right)
    (low : mark.toNat < 0x61) (unchanged : fold mark = mark) (member : mark ∈ left) :
    mark ∈ right := by
  have folded : fold mark ∈ right.map fold := by
    rw [← same]
    exact List.mem_map_of_mem member
  obtain ⟨c, inRight, sameFold⟩ := List.mem_map.mp folded
  rw [unchanged] at sameFold
  rwa [eq_of_fold_eq low sameFold] at inRight

theorem sameText_singleton_iff {text : List Char} {c : Char} :
    SameText text [c] ↔ ∃ other, text = [other] ∧ fold other = fold c := by
  rw [SameText, List.map_singleton, List.map_eq_singleton_iff]

theorem sameText_append_iff {text left right : List Char} :
    SameText text (left ++ right) ↔
      ∃ first second, text = first ++ second ∧ SameText first left ∧ SameText second right := by
  rw [SameText, List.map_append, List.map_eq_append_iff]
  rfl

end Text

end ContentBlocking
