import Mathlib.Data.List.Pairwise
import ContentBlocking.Pattern.Alphabet

/-!
# Closures under changes of case

A set is closed under changes of case by adding the variants of its members. The closure looks at
the characters with case only, and leaves a set alone that has all of them or none. That is the
same, because a character is a variant of another one only if both have case. Folding a character is
searching the runs, of which no two overlap, so what a run is sent to is known.
-/

namespace ContentBlocking

namespace Text

/-! ## Runs -/

namespace FoldRun

theorem mem_sources_of_covers {run : FoldRun} {code : Nat} (covered : run.covers code = true) :
    Char.ofNat code ∈ run.sources := by
  simp only [covers, Bool.and_eq_true, decide_eq_true_eq] at covered
  obtain ⟨⟨notBelow, notAbove⟩, onStep⟩ := covered
  refine List.mem_map_of_mem (List.mem_range'.2 ⟨(code - run.first) / run.step, ?_, ?_⟩)
  · exact Nat.lt_succ_of_le (Nat.div_le_div_right (Nat.sub_le_sub_right notAbove run.first))
  · have parts := Nat.div_add_mod (code - run.first) run.step
    omega

theorem le_of_covers {run : FoldRun} {code : Nat} (covered : run.covers code = true) :
    run.first ≤ code ∧ code ≤ run.last := by
  simp only [covers, Bool.and_eq_true, decide_eq_true_eq] at covered
  exact covered.1

end FoldRun

/-- A run comes before another one if it begins and ends before the other one begins. -/
def FoldRun.Before (run next : FoldRun) : Prop := run.first < next.first ∧ run.last < next.first

instance (run next : FoldRun) : Decidable (run.Before next) :=
  inferInstanceAs (Decidable (_ ∧ _))

instance : Trans FoldRun.Before FoldRun.Before FoldRun.Before where
  trans first second :=
    ⟨Nat.lt_trans first.1 second.1, Nat.lt_trans first.2 second.1⟩

/-- The runs of case folding are listed in order and do not overlap. -/
theorem foldRuns_pairwise : foldRuns.Pairwise FoldRun.Before := by
  have inOrder : foldRuns.IsChain FoldRun.Before := by
    decide +kernel
  exact List.isChain_iff_pairwise.mp inOrder

/-- The runs consist of characters, of which the first one is none. -/
theorem foldRuns_valid :
    ∀ run ∈ foldRuns, 0 < run.first ∧ run.last < 0x110000 ∧
      (run.last < 0xd800 ∨ 0xdfff < run.first) := by
  decide +kernel

/-- Case folding only changes a code point that a run covers. -/
theorem foldCode_eq_or_covers (runs : List FoldRun) (code : Nat) :
    foldCode runs code = code ∨ ∃ run ∈ runs, run.covers code = true := by
  induction runs with
  | nil => exact Or.inl rfl
  | cons run rest inductionHypothesis =>
      rw [foldCode]
      split
      · exact Or.inl rfl
      · split
        · exact Or.inr ⟨run, List.mem_cons_self, ‹_›⟩
        · rcases inductionHypothesis with unchanged | ⟨other, member, covered⟩
          · exact Or.inl unchanged
          · exact Or.inr ⟨other, List.mem_cons_of_mem run member, covered⟩

/-- No other run comes in the way of the one that covers a code point. -/
theorem foldCode_of_covers {runs : List FoldRun} {run : FoldRun} {code : Nat}
    (inOrder : runs.Pairwise FoldRun.Before) (member : run ∈ runs)
    (covered : run.covers code = true) :
    foldCode runs code = run.image code := by
  have within := FoldRun.le_of_covers covered
  induction runs with
  | nil => cases member
  | cons first rest inductionHypothesis =>
      obtain ⟨before, restInOrder⟩ := List.pairwise_cons.mp inOrder
      rw [foldCode]
      rcases List.mem_cons.mp member with same | later
      · rw [← same, if_neg (Nat.not_lt_of_le within.1), if_pos covered]
      · have behind := before run later
        have notCovered : ¬ first.covers code = true := by
          intro coveredToo
          have ended := (FoldRun.le_of_covers coveredToo).2
          have begun := behind.2
          omega
        rw [if_neg (Nat.not_lt_of_le (Nat.le_trans (Nat.le_of_lt behind.1) within.1)),
          if_neg notCovered]
        exact inductionHypothesis restInOrder later

/-! ## Variants -/

/-- The cased characters are those of the runs and those to which the runs send them. -/
theorem mem_cased_iff {c : Char} :
    cased.mem c = true ↔
      ∃ run ∈ foldRuns, ∃ source ∈ run.sources, c = source ∨ c = fold source := by
  simp [cased]

/-- What folding changes is covered by a run. -/
theorem exists_covers_of_fold_ne {c : Char} (changed : fold c ≠ c) :
    ∃ run ∈ foldRuns, run.covers c.toNat = true := by
  rcases foldCode_eq_or_covers foldRuns c.toNat with unchanged | covered
  · refine absurd ?_ changed
    rw [fold, unchanged, Char.ofNat_toNat]
  · exact covered

/-- What folding changes has case, and so has what it is changed into. -/
theorem mem_cased_of_fold_ne {c : Char} (changed : fold c ≠ c) :
    cased.mem c = true ∧ cased.mem (fold c) = true := by
  obtain ⟨run, member, covered⟩ := exists_covers_of_fold_ne changed
  have source : c ∈ run.sources := by
    have listed := FoldRun.mem_sources_of_covers covered
    rwa [Char.ofNat_toNat] at listed
  exact ⟨mem_cased_iff.mpr ⟨run, member, c, source, Or.inl rfl⟩,
    mem_cased_iff.mpr ⟨run, member, c, source, Or.inr rfl⟩⟩

/-- What is found in the runs against their direction folds to what was searched for. -/
theorem fold_of_mem_unfold {c folded : Char} (found : c ∈ unfold folded) :
    ∃ run ∈ foldRuns, c ∈ run.sources ∧ fold c = folded := by
  unfold unfold at found
  split at found
  · cases found
  · obtain ⟨run, member, searched⟩ := List.mem_filterMap.mp found
    obtain ⟨source, reached, rfl⟩ := Option.map_eq_some_iff.mp searched
    rw [FoldRun.source?] at reached
    split at reached
    · rename_i covered
      cases reached
      generalize sourceIs : ((folded.toNat : Int) - run.shift).toNat = source at covered
      obtain ⟨positive, small, noSurrogate⟩ := foldRuns_valid run member
      have within := FoldRun.le_of_covers covered
      have isChar : source.isValidChar := by
        rw [Nat.isValidChar]
        omega
      refine ⟨run, member, FoldRun.mem_sources_of_covers covered, ?_⟩
      have image : run.image source = folded.toNat := by
        rw [FoldRun.image]
        omega
      have itself : (Char.ofNat source).toNat = source := by
        rw [Char.ofNat, dif_pos isChar]
        rfl
      rw [fold, itself, foldCode_of_covers foldRuns_pairwise member covered, image,
        Char.ofNat_toNat]
    · cases reached

/-- A character has no variants but itself unless both have case. -/
theorem eq_or_mem_cased_of_mem_variants {c other : Char} (variant : other ∈ variants c) :
    other = c ∨ cased.mem c = true ∧ cased.mem other = true := by
  rcases List.mem_cons.mp variant with same | folded
  · exact Or.inl same
  · rcases List.mem_cons.mp folded with isFolded | unfolded
    · by_cases unchanged : fold c = c
      · exact Or.inl (isFolded.trans unchanged)
      · exact Or.inr (isFolded ▸ mem_cased_of_fold_ne unchanged)
    · obtain ⟨run, member, source, sameFold⟩ := fold_of_mem_unfold unfolded
      have otherCased : cased.mem other = true :=
        mem_cased_iff.mpr ⟨run, member, other, source, Or.inl rfl⟩
      refine Or.inr ⟨?_, otherCased⟩
      by_cases unchanged : fold c = c
      · exact mem_cased_iff.mpr
          ⟨run, member, other, source, Or.inr (unchanged.symm.trans sameFold.symm)⟩
      · exact (mem_cased_of_fold_ne unchanged).1

end Text

namespace Pattern.Alphabet

open Text

/-! ## Closures -/

variable {set : CharSet} {code : Nat}

/-- Only characters have case, so the members with case are the ones that are listed. -/
theorem mem_toList_inter_cased_iff {c : Char} :
    c ∈ (set.inter Text.cased).toList ↔ set.mem c = true ∧ Text.cased.mem c = true := by
  rw [← Bool.and_eq_true, ← CharSet.mem_inter]
  constructor
  · intro listed
    obtain ⟨known, inside, rfl⟩ := CharSet.exists_hasCode_of_mem_toList listed
    have isCased : Text.cased.hasCode known = true := by
      rw [CharSet.hasCode_inter, Bool.and_eq_true] at inside
      exact inside.2
    rw [Text.cased, CharSet.hasCode_ofChars, List.any_eq_true] at isCased
    obtain ⟨other, _, same⟩ := isCased
    obtain rfl := of_decide_eq_true same
    rw [Char.ofNat_toNat]
    exact inside
  · exact CharSet.mem_toList_of_mem

/-- If no member has case, or all that has case is a member, there are no further variants. -/
theorem mem_of_mem_variants
    (noneOrAll : set.inter Text.cased = .none ∨ set.inter Text.cased = Text.cased)
    {c other : Char} (member : set.mem c = true) (variant : other ∈ Text.variants c) :
    set.mem other = true := by
  rcases eq_or_mem_cased_of_mem_variants variant with itself | ⟨cCased, otherCased⟩
  · rw [itself]
    exact member
  · rcases noneOrAll with nothing | everything
    · have touched : (set.inter Text.cased).mem c = true := by
        rw [CharSet.mem_inter, member, cCased]
        rfl
      rw [nothing] at touched
      cases touched
    · have touched : (set.inter Text.cased).mem other = true := by
        rw [everything]
        exact otherCased
      rw [CharSet.mem_inter, Bool.and_eq_true] at touched
      exact touched.1

/-- The closure has the members of a set and their variants, and no other code points. -/
theorem hasCode_closure_iff :
    (closure .unicode set).hasCode code = true ↔
      set.hasCode code = true ∨
        ∃ c, set.mem c = true ∧ ∃ variant ∈ Text.variants c, variant.toNat = code := by
  by_cases noneOrAll : set.inter Text.cased = .none ∨ set.inter Text.cased = Text.cased
  · rw [closure, cased, if_pos noneOrAll]
    constructor
    · exact Or.inl
    · intro either
      rcases either with inside | ⟨c, member, other, variant, same⟩
      · exact inside
      · exact same ▸ mem_of_mem_variants noneOrAll member variant
  · rw [closure, cased, if_neg noneOrAll, CharSet.hasCode_union, Bool.or_eq_true,
      CharSet.hasCode_ofChars, List.any_eq_true]
    simp only [variants, List.mem_flatMap, mem_toList_inter_cased_iff, decide_eq_true_eq]
    constructor
    · intro either
      rcases either with inside | ⟨other, ⟨c, ⟨member, _⟩, variant⟩, same⟩
      · exact Or.inl inside
      · exact Or.inr ⟨c, member, other, variant, same⟩
    · intro either
      rcases either with inside | ⟨c, member, other, variant, same⟩
      · exact Or.inl inside
      · -- What the union leaves out is a variant of a member without case, which is itself.
        rcases eq_or_mem_cased_of_mem_variants variant with itself | ⟨cCased, _⟩
        · exact Or.inl (same ▸ itself ▸ member)
        · exact Or.inr ⟨other, ⟨c, ⟨member, cCased⟩, variant⟩, same⟩

def withVariants (set : CharSet) : CharSet :=
  set.union (.ofChars (set.toList.flatMap Text.variants))

/-- If nothing but members is listed, the closure can be had without a look at case. -/
theorem closure_eq_withVariants (listed : set.toList.all set.mem = true) :
    closure .unicode set = withVariants set := by
  apply CharSet.ext_hasCode
  intro known
  rw [Bool.eq_iff_iff, hasCode_closure_iff, withVariants, CharSet.hasCode_union, Bool.or_eq_true,
    CharSet.hasCode_ofChars, List.any_eq_true]
  simp only [List.mem_flatMap, decide_eq_true_eq]
  constructor
  · intro either
    rcases either with inside | ⟨c, member, other, variant, same⟩
    · exact Or.inl inside
    · exact Or.inr ⟨other, ⟨c, CharSet.mem_toList_of_mem member, variant⟩, same⟩
  · intro either
    rcases either with inside | ⟨other, ⟨c, member, variant⟩, same⟩
    · exact Or.inl inside
    · exact Or.inr ⟨c, List.all_eq_true.mp listed c member, other, variant, same⟩

end Pattern.Alphabet

end ContentBlocking
