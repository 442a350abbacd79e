import Mathlib.Data.List.Perm.Subperm
import ContentBlocking.Proofs.Pattern.MachineBound
import ContentBlocking.Proofs.Text.Variants

/-!
# How many bytes the characters of a filter take

The byte forms of a range of characters fall into no more stretches than the range has characters,
and none is longer than four bytes. A set that is made from a few characters has no more code points
than these, so it takes few bytes in a machine. The variants of a character are such a set.
-/

namespace ContentBlocking

open Text

/-! ## Code points of sets -/

namespace Text.CharSet

def codesOf (ranges : List (Nat × Nat)) : List Nat :=
  ranges.flatMap fun (first, last) => List.range' first (last + 1 - first)

theorem le_of_mem_codesOf {bounds : List Nat} {least code : Nat}
    (notBelow : ∀ bound ∈ bounds, least ≤ bound) (listed : code ∈ codesOf (rangesBetween bounds)) :
    least ≤ code := by
  obtain ⟨range, isRange, within⟩ := List.mem_flatMap.mp listed
  have atLeast := notBelow range.1 (first_mem_of_mem_rangesBetween isRange)
  rw [List.mem_range'_1] at within
  omega

theorem codesOf_pairwise {bounds : List Nat} (ascending : bounds.Pairwise (· < ·)) :
    (codesOf (rangesBetween bounds)).Pairwise (· < ·) := by
  fun_induction rangesBetween bounds with
  | case1 => exact List.Pairwise.nil
  | case2 first =>
      rw [codesOf, List.flatMap_singleton]
      exact List.pairwise_lt_range'
  | case3 first next rest inductionHypothesis =>
      obtain ⟨_, nextAscending⟩ := List.pairwise_cons.mp ascending
      obtain ⟨nextBelow, restAscending⟩ := List.pairwise_cons.mp nextAscending
      rw [codesOf, List.flatMap_cons, List.pairwise_append]
      refine ⟨List.pairwise_lt_range', inductionHypothesis restAscending, ?_⟩
      intro code early other late
      have behind : next + 1 ≤ other := le_of_mem_codesOf nextBelow late
      rw [List.mem_range'_1] at early
      omega

/-- Every range but the last one has a code point. -/
theorem length_ranges_le {bounds : List Nat} (ascending : bounds.Pairwise (· < ·)) :
    (rangesBetween bounds).length ≤ (codesOf (rangesBetween bounds)).length + 1 := by
  fun_induction rangesBetween bounds with
  | case1 => exact Nat.zero_le _
  | case2 first => exact Nat.le_add_left 1 _
  | case3 first next rest inductionHypothesis =>
      obtain ⟨firstBelow, nextAscending⟩ := List.pairwise_cons.mp ascending
      have ordered := firstBelow next List.mem_cons_self
      have later := inductionHypothesis (List.pairwise_cons.mp nextAscending).2
      simp only [codesOf, List.flatMap_cons, List.length_append, List.length_range',
        List.length_cons] at later ⊢
      omega

/-- A set of listed characters has no more code points than there are characters in the list. -/
theorem length_codesOf_ofChars_le (chars : List Char) :
    (codesOf (ofChars chars).ranges).length ≤ chars.length := by
  have distinct : (codesOf (ofChars chars).ranges).Nodup :=
    (codesOf_pairwise (ofChars chars).ascending).imp Nat.ne_of_lt
  have listed : codesOf (ofChars chars).ranges ⊆ chars.map Char.toNat := by
    intro code member
    obtain ⟨range, isRange, within⟩ := List.mem_flatMap.mp member
    rw [List.mem_range'_1] at within
    have hasCode : (ofChars chars).hasCode code = true :=
      isInside_of_mem_rangesBetween (ofChars chars).ascending isRange within.1 (by omega)
    rw [hasCode_ofChars] at hasCode
    obtain ⟨c, isChar, same⟩ := List.any_eq_true.mp hasCode
    exact List.mem_map.mpr ⟨c, isChar, of_decide_eq_true same⟩
  have fewer := (List.Nodup.subperm distinct listed).length_le
  rwa [List.length_map] at fewer

end Text.CharSet

namespace Pattern

/-! ## Stretches of byte forms -/

theorem length_of_mem_stretchesBetween {more first last : Nat} {stretch : ByteStretch}
    (member : stretch ∈ stretchesBetween more first last) : stretch.length = more + 1 := by
  induction more generalizing first last stretch with
  | zero =>
      rw [List.mem_singleton.mp member]
      rfl
  | succ more inductionHypothesis =>
      have longer : ∀ {lead : Nat × Nat} {first last : Nat},
          stretch ∈ (stretchesBetween more first last).map (lead :: ·) →
            stretch.length = more + 1 + 1 := by
        intro lead first last isLonger
        obtain ⟨tail, isTail, rfl⟩ := List.mem_map.mp isLonger
        rw [List.length_cons, inductionHypothesis isTail]
      rw [stretchesBetween] at member
      simp only at member
      split at member
      · exact longer member
      · rw [List.mem_append, List.mem_append, List.mem_ite_nil_left, List.mem_ite_nil_right,
          List.mem_ite_nil_left] at member
        rcases member with (⟨_, atStart⟩ | ⟨_, inMiddle⟩) | ⟨_, atEnd⟩
        · exact longer atStart
        · rw [List.mem_singleton.mp inMiddle, List.length_cons, List.length_replicate]
        · exact longer atEnd

theorem length_stretchesBetween_le {more first last : Nat} (ordered : first ≤ last) :
    (stretchesBetween more first last).length ≤ last + 1 - first := by
  induction more generalizing first last with
  | zero =>
      rw [stretchesBetween, List.length_singleton]
      omega
  | succ more inductionHypothesis =>
      rw [stretchesBetween]
      generalize sizeEq : Nat.pow 64 (more + 1) = size
      have positive : 0 < size := by
        rw [← sizeEq]
        exact Nat.pow_pos (by decide)
      have firstParts := Nat.div_add_mod first size
      have lastParts := Nat.div_add_mod last size
      have firstRest := Nat.mod_lt first positive
      have lastRest := Nat.mod_lt last positive
      have leads := Nat.div_le_div_right (c := size) ordered
      -- From here on only the leading digits and what is behind them matter.
      generalize first / size = lead at *
      generalize last / size = lastLead at *
      generalize first % size = firstDigits at *
      generalize last % size = lastDigits at *
      simp only
      split
      · rename_i sameLead
        subst sameLead
        rw [List.length_map]
        have inner : (stretchesBetween more firstDigits lastDigits).length ≤ _ :=
          inductionHypothesis (by omega)
        omega
      · rename_i otherLead
        have atStart : (stretchesBetween more firstDigits (size - 1)).length ≤ _ :=
          inductionHypothesis (by omega)
        have atEnd : (stretchesBetween more 0 lastDigits).length ≤ _ :=
          inductionHypothesis (by omega)
        obtain ⟨further, rfl⟩ := Nat.exists_eq_add_of_le leads
        rw [Nat.mul_add] at lastParts
        have one : size * 1 ≤ size * further := Nat.mul_le_mul_left size (by omega)
        have two : lead + 1 ≤ lead + further - 1 → size * 2 ≤ size * further := fun several =>
          Nat.mul_le_mul_left size (by omega)
        -- Each end that is split off has numbers of its own, and so has the middle if it is there.
        by_cases startsWhole : firstDigits = 0
        · by_cases endsWhole : lastDigits = size - 1
          · simp only [startsWhole, endsWhole, if_true]
            split <;> simp <;> omega
          · simp only [startsWhole, endsWhole, if_true, if_false, List.length_append,
              List.length_map]
            split <;> simp <;> omega
        · by_cases endsWhole : lastDigits = size - 1
          · simp only [startsWhole, endsWhole, if_true, if_false, List.length_append,
              List.length_map]
            split <;> simp <;> omega
          · simp only [startsWhole, endsWhole, if_false, List.length_append, List.length_map]
            split <;> simp <;> omega

def clip (first last code : Nat) : Nat := max first (min code (last + 1))

theorem clip_mono {first last code other : Nat} (ordered : code ≤ other) :
    clip first last code ≤ clip first last other := by
  unfold clip
  omega

theorem clip_sub_clip_le (first last code other : Nat) :
    clip first last other - clip first last code ≤ last + 1 - first := by
  unfold clip
  omega

/-- A range has no more byte stretches than code points. -/
theorem length_stretchesOfRange_le (first last : Nat) :
    (stretchesOfRange first last).length ≤ last + 1 - first := by
  -- The stretches of one length are between two bounds, of which one is the next one's other bound.
  have ofLength : ∀ least most lead more next : Nat, next = most + 1 →
      (if max first least ≤ min last most then
        (stretchesBetween more (max first least) (min last most)).map (markBytes lead)
      else []).length ≤ clip first last next - clip first last least := by
    rintro least most lead more _ rfl
    split
    · rename_i ordered
      rw [List.length_map]
      apply Nat.le_trans (length_stretchesBetween_le ordered)
      unfold clip
      omega
    · exact Nat.zero_le _
  have one := ofLength 0 0x7f 0 0 0x80 rfl
  have two := ofLength 0x80 0x7ff 0xc0 1 0x800 rfl
  have three := ofLength 0x800 0xd7ff 0xe0 2 0xd800 rfl
  have threeMore := ofLength 0xe000 0xffff 0xe0 2 0x10000 rfl
  have four := ofLength 0x10000 0x10ffff 0xf0 3 0x110000 rfl
  have oneOrdered : clip first last 0 ≤ clip first last 0x80 := clip_mono (by decide)
  have twoOrdered : clip first last 0x80 ≤ clip first last 0x800 := clip_mono (by decide)
  have threeOrdered : clip first last 0x800 ≤ clip first last 0xd800 := clip_mono (by decide)
  have surrogates : clip first last 0xd800 ≤ clip first last 0xe000 := clip_mono (by decide)
  have threeMoreOrdered : clip first last 0xe000 ≤ clip first last 0x10000 := clip_mono (by decide)
  have fourOrdered : clip first last 0x10000 ≤ clip first last 0x110000 := clip_mono (by decide)
  have whole := clip_sub_clip_le first last 0 0x110000
  simp only [stretchesOfRange, byteLengths, List.flatMap_cons, List.flatMap_nil,
    List.length_append, List.length_nil]
  omega

theorem length_markBytes (lead : Nat) (stretch : ByteStretch) :
    (markBytes lead stretch).length = stretch.length := by
  cases stretch with
  | nil => rfl
  | cons range rest => rw [markBytes, List.length_cons, List.length_map, List.length_cons]

theorem length_le_of_mem_stretchesOfRange {first last : Nat} {stretch : ByteStretch}
    (member : stretch ∈ stretchesOfRange first last) : stretch.length ≤ 4 := by
  obtain ⟨⟨least, most, lead, more⟩, isLength, ofLength⟩ := List.mem_flatMap.mp member
  have atMostThree : ∀ lengths ∈ byteLengths, lengths.2.2.2 ≤ 3 := by
    decide
  have few := atMostThree _ isLength
  obtain ⟨_, marked⟩ := List.mem_ite_nil_right.mp ofLength
  obtain ⟨digits, isStretch, rfl⟩ := List.mem_map.mp marked
  rw [length_markBytes, length_of_mem_stretchesBetween isStretch]
  exact Nat.succ_le_succ few

/-! ## Sets of a few characters -/

theorem length_flatten_le {stretches : List ByteStretch}
    (short : ∀ stretch ∈ stretches, stretch.length ≤ 4) :
    stretches.flatten.length ≤ 4 * stretches.length := by
  induction stretches with
  | nil => exact Nat.le_refl 0
  | cons stretch rest inductionHypothesis =>
      have first := short stretch List.mem_cons_self
      have later := inductionHypothesis fun other member =>
        short other (List.mem_cons_of_mem stretch member)
      rw [List.flatten_cons, List.length_append, List.length_cons]
      omega

theorem length_byteStretches_le (set : CharSet) :
    (byteStretches set).length ≤ (CharSet.codesOf set.ranges).length := by
  rw [byteStretches, CharSet.codesOf]
  induction set.ranges with
  | nil => exact Nat.le_refl 0
  | cons range rest inductionHypothesis =>
      have first := length_stretchesOfRange_le range.1 range.2
      simp only [List.flatMap_cons, List.length_append, List.length_range']
        at inductionHypothesis ⊢
      omega

/-- The bytes that a set of listed characters takes are bounded by the length of the list. -/
theorem setBytes_ofChars_le (chars : List Char) :
    setBytes (.ofChars chars) ≤ 72 + 172 * chars.length := by
  have codes := CharSet.length_codesOf_ofChars_le chars
  have ranges := CharSet.length_ranges_le (CharSet.ofChars chars).ascending
  have stretches := length_byteStretches_le (.ofChars chars)
  have short : ∀ stretch ∈ byteStretches (.ofChars chars), stretch.length ≤ 4 := by
    intro stretch member
    obtain ⟨_, _, ofRange⟩ := List.mem_flatMap.mp member
    exact length_le_of_mem_stretchesOfRange ofRange
  have bytes := length_flatten_le short
  rw [← CharSet.ranges] at ranges
  rw [setBytes]
  omega

/-! ## Single characters -/

theorem length_byteForm_le (c : Char) : (byteForm c).length ≤ 4 := by
  have few := length_stretchesOfRange_le c.toNat c.toNat
  have bytes : (stretchesOfRange c.toNat c.toNat).flatten.length ≤ _ :=
    length_flatten_le fun _ member => length_le_of_mem_stretchesOfRange member
  have sameLength : (byteForm c).length = (stretchesOfRange c.toNat c.toNat).flatten.length := by
    rw [byteForm, List.length_flatMap, List.length_flatten]
    simp
  omega

theorem stretchesBetween_ne_nil (more code : Nat) : stretchesBetween more code code ≠ [] := by
  induction more generalizing code with
  | zero => exact List.cons_ne_nil _ _
  | succ more inductionHypothesis =>
      rw [stretchesBetween]
      simp only [if_true]
      intro nothing
      exact inductionHypothesis _ (List.map_eq_nil_iff.mp nothing)

theorem byteForm_ne_nil (c : Char) : byteForm c ≠ [] := by
  have valid := c.valid
  rw [UInt32.isValidChar, Nat.isValidChar] at valid
  change c.toNat < 0xd800 ∨ 0xdfff < c.toNat ∧ c.toNat < 0x110000 at valid
  -- Surrogates would not be written, but they are no characters.
  have isWritten : ∃ lengths ∈ byteLengths, lengths.1 ≤ c.toNat ∧ c.toNat ≤ lengths.2.1 := by
    simp only [byteLengths, List.mem_cons, List.not_mem_nil, or_false, exists_eq_or_imp,
      exists_eq_left]
    omega
  obtain ⟨⟨least, most, lead, more⟩, isLength, notBelow, notAbove⟩ := isWritten
  obtain ⟨digits, isStretch⟩ := List.exists_mem_of_ne_nil _ (stretchesBetween_ne_nil more c.toNat)
  have marked : markBytes lead digits ∈ stretchesOfRange c.toNat c.toNat := by
    refine List.mem_flatMap.mpr ⟨_, isLength, ?_⟩
    simp only [Nat.max_eq_left notBelow, Nat.min_eq_left notAbove, Nat.le_refl, if_true]
    exact List.mem_map_of_mem isStretch
  have filled : (markBytes lead digits).length ≠ 0 := by
    rw [length_markBytes, length_of_mem_stretchesBetween isStretch]
    exact Nat.succ_ne_zero more
  obtain ⟨range, inStretch⟩ := List.exists_mem_of_length_pos (Nat.pos_of_ne_zero filled)
  exact List.ne_nil_of_mem (List.mem_flatMap.mpr ⟨_, marked, List.mem_map_of_mem inStretch⟩)

end Pattern

end ContentBlocking
