import ContentBlocking.Proofs.Pattern.CharBytes
import ContentBlocking.Proofs.Pattern.MachineGrowth
import ContentBlocking.Proofs.Pattern.Reading

/-!
# How many bytes sequences take

The outline of a sequence joins neighbouring characters and takes sequences inside it apart. Neither
changes what the parts take together, so a long text is bounded from below and from above by what
its characters take.
-/

namespace ContentBlocking.Pattern

open ContentBlocking.Text

theorem byteForms_append (left right : List Char) :
    byteForms (left ++ right) = byteForms left ++ byteForms right :=
  List.flatMap_append

namespace Outline

variable {part : Outline} {parts others rest : List Outline} {bytes total more : Nat}

/-! ## From below -/

theorem sum_eachLeastBytes_cons (part : Outline) (rest : List Outline) :
    (eachLeastBytes (cons part rest)).sum = part.leastBytes + (eachLeastBytes rest).sum := by
  unfold cons
  split
  · simp only [eachLeastBytes, leastBytes, byteForms_append, List.length_append, List.sum_cons]
    omega
  · rw [eachLeastBytes, List.sum_cons]

theorem sum_eachLeastBytes_prepend (part : Outline) (rest : List Outline) :
    (eachLeastBytes (prepend part rest)).sum = part.leastBytes + (eachLeastBytes rest).sum := by
  unfold prepend
  split
  · rw [leastBytes, Nat.zero_add]
  · rename_i parts
    rw [leastBytes]
    induction parts with
    | nil => rw [eachLeastBytes, List.sum_nil, Nat.zero_add, List.foldr_nil]
    | cons first parts inductionHypothesis =>
        rw [List.foldr_cons, sum_eachLeastBytes_cons, inductionHypothesis, eachLeastBytes,
          List.sum_cons, Nat.add_assoc]
  · exact sum_eachLeastBytes_cons part rest

/-- Joining neighbouring texts does not change the least bytes of a sequence. -/
theorem leastBytes_ofSequence (parts : List Outline) :
    (ofSequence parts).leastBytes = (eachLeastBytes parts).sum := by
  have together : (eachLeastBytes (parts.foldr prepend [])).sum = (eachLeastBytes parts).sum := by
    induction parts with
    | nil => rfl
    | cons first rest inductionHypothesis =>
        rw [List.foldr_cons, sum_eachLeastBytes_prepend, inductionHypothesis, eachLeastBytes,
          List.sum_cons]
  rw [← together, ofSequence]
  split
  · rename_i nothing
    rw [nothing]
    rfl
  · rename_i only single
    rw [single, eachLeastBytes, List.sum_cons]
    rfl
  · rw [leastBytes]

/-! ## From above -/

/-- Whether outlines without choices take so many bytes together at most. -/
def areWithin (parts : List Outline) (total : Nat) : Bool :=
  (bytesBounds? parts).any fun bounds => bounds.sum ≤ total

theorem areWithin_iff :
    areWithin parts total = true ↔ ∃ bounds, bytesBounds? parts = some bounds ∧ bounds.sum ≤ total := by
  rw [areWithin, Option.any_eq_true]
  simp only [decide_eq_true_eq]

theorem bytesBounds?_cons_eq_some {bounds : List Nat} (first : part.bytesBound? = some bytes)
    (later : bytesBounds? rest = some bounds) :
    bytesBounds? (part :: rest) = some (bytes :: bounds) := by
  rw [bytesBounds?, first, later]

theorem areWithin_cons (first : part.bytesBound? = some bytes) (later : areWithin rest total = true) :
    areWithin (part :: rest) (bytes + total) = true := by
  obtain ⟨bounds, bounded, small⟩ := areWithin_iff.mp later
  refine areWithin_iff.mpr ⟨bytes :: bounds, bytesBounds?_cons_eq_some first bounded, ?_⟩
  rw [List.sum_cons]
  omega

theorem exists_of_areWithin_cons (within : areWithin (part :: rest) total = true) :
    ∃ first later, part.bytesBound? = some first ∧ areWithin rest later = true ∧
      first + later ≤ total := by
  obtain ⟨bounds, bounded, small⟩ := areWithin_iff.mp within
  clear within
  rw [bytesBounds?] at bounded
  split at bounded
  · rename_i first others firstBounded restBounded
    cases bounded
    rw [List.sum_cons] at small
    have within : areWithin rest others.sum = true :=
      areWithin_iff.mpr ⟨others, restBounded, Nat.le_refl others.sum⟩
    exact ⟨first, others.sum, firstBounded, within, small⟩
  · cases bounded

theorem areWithin_mono (within : areWithin parts total = true) (enough : total ≤ more) :
    areWithin parts more = true := by
  obtain ⟨bounds, bounded, small⟩ := areWithin_iff.mp within
  exact areWithin_iff.mpr ⟨bounds, bounded, Nat.le_trans small enough⟩

theorem areWithin_append (first : areWithin parts total = true)
    (second : areWithin others more = true) :
    areWithin (parts ++ others) (total + more) = true := by
  induction parts generalizing total with
  | nil => exact areWithin_mono second (Nat.le_add_left more total)
  | cons part parts inductionHypothesis =>
      obtain ⟨bytes, later, bounded, within, small⟩ := exists_of_areWithin_cons first
      refine areWithin_mono (areWithin_cons bounded (inductionHypothesis within)) ?_
      omega

theorem areWithin_of_each (each : ∀ part ∈ parts, ∃ bound ≤ bytes, part.bytesBound? = some bound) :
    areWithin parts (parts.length * bytes) = true := by
  induction parts with
  | nil => rfl
  | cons part parts inductionHypothesis =>
      obtain ⟨bound, small, bounded⟩ := each part List.mem_cons_self
      have later := inductionHypothesis fun other member =>
        each other (List.mem_cons_of_mem part member)
      refine areWithin_mono (areWithin_cons bounded later) ?_
      rw [List.length_cons, Nat.succ_mul]
      omega

theorem areWithin_joined (first : part.bytesBound? = some bytes)
    (later : areWithin rest total = true) :
    areWithin (cons part rest) (bytes + total) = true := by
  unfold cons
  split
  · -- The bytes of two texts add up when they are joined.
    rename_i left right rest
    obtain ⟨second, remaining, bounded, within, small⟩ := exists_of_areWithin_cons later
    cases first
    cases bounded
    have joined : (literal (left ++ right)).bytesBound? =
        some (32 * (byteForms left).length + 32 * (byteForms right).length) := by
      rw [bytesBound?, byteForms_append, List.length_append, Nat.mul_add]
    refine areWithin_mono (areWithin_cons joined within) ?_
    omega
  · exact areWithin_cons first later

theorem areWithin_prepend (first : part.bytesBound? = some bytes)
    (later : areWithin rest total = true) :
    areWithin (prepend part rest) (bytes + total) = true := by
  unfold prepend
  split
  · exact areWithin_mono later (Nat.le_add_left total bytes)
  · rename_i parts
    obtain ⟨bounds, bounded, rfl⟩ := Option.map_eq_some_iff.mp first
    rw [← List.sum_eq_foldl]
    clear first
    induction parts generalizing bounds with
    | nil => exact areWithin_mono later (Nat.le_add_left total _)
    | cons part parts inductionHypothesis =>
        rw [bytesBounds?] at bounded
        split at bounded
        · rename_i bytes others firstBounded restBounded
          cases bounded
          rw [List.sum_cons, Nat.add_assoc]
          exact areWithin_joined firstBounded (inductionHypothesis others restBounded)
        · cases bounded
  · exact areWithin_joined first later

/-- The outline of a sequence takes what its parts take, and a state if there is none. -/
theorem bytesBound?_ofSequence (within : areWithin parts total = true) :
    ∃ bound ≤ total + 32, (ofSequence parts).bytesBound? = some bound := by
  have together : areWithin (parts.foldr prepend []) total = true := by
    induction parts generalizing total with
    | nil => exact within
    | cons part parts inductionHypothesis =>
        obtain ⟨bytes, later, bounded, restWithin, small⟩ := exists_of_areWithin_cons within
        exact areWithin_mono (areWithin_prepend bounded (inductionHypothesis restWithin)) small
  rw [ofSequence]
  split
  · exact ⟨32, Nat.le_add_left 32 total, rfl⟩
  · rename_i only single
    rw [single] at together
    obtain ⟨bytes, later, bounded, _, small⟩ := exists_of_areWithin_cons together
    exact ⟨bytes, by omega, bounded⟩
  · obtain ⟨bounds, bounded, small⟩ := areWithin_iff.mp together
    refine ⟨bounds.sum, Nat.le_add_right_of_le small, ?_⟩
    rw [bytesBound?, bounded, Option.map_some, List.sum_eq_foldl]

end Outline

/-! ## Characters -/

namespace Written

theorem outlines_eq_map (trees : List Written) : outlines trees = trees.map outline := by
  induction trees with
  | nil => rfl
  | cons tree trees inductionHypothesis => rw [outlines, inductionHypothesis, List.map_cons]

theorem bytesBound?_literal (c : Char) :
    ∃ bound ≤ 932, (literal c).outline.bytesBound? = some bound := by
  rw [literal, outline, Outline.ofSet]
  split
  · rename_i only _
    have bytes := length_byteForm_le only
    have single : byteForms [only] = byteForm only := List.flatMap_singleton byteForm only
    refine ⟨32 * (byteForms [only]).length, ?_, rfl⟩
    rw [single]
    omega
  · -- There are five variants at most, and each takes four bytes at most.
    have few := length_variants_le c
    have bytes := setBytes_ofChars_le (variants c)
    exact ⟨setBytes (.ofChars (variants c)), by omega, rfl⟩

theorem le_leastBytes_literal (c : Char) : 32 ≤ (literal c).outline.leastBytes := by
  rw [literal, outline, Outline.ofSet]
  split
  · rename_i only _
    have filled := List.length_pos_of_ne_nil (byteForm_ne_nil only)
    have single : byteForms [only] = byteForm only := List.flatMap_singleton byteForm only
    rw [Outline.leastBytes, single]
    omega
  · exact Nat.le_refl 32

theorem areWithin_literals (text : List Char) :
    Outline.areWithin ((text.map literal).map outline) (text.length * 932) = true := by
  have each : ∀ part ∈ (text.map literal).map outline,
      ∃ bound ≤ 932, part.bytesBound? = some bound := by
    intro part member
    obtain ⟨tree, isTree, rfl⟩ := List.mem_map.mp member
    obtain ⟨c, _, rfl⟩ := List.mem_map.mp isTree
    exact bytesBound?_literal c
  have within := Outline.areWithin_of_each each
  rwa [List.length_map, List.length_map] at within

theorem le_sum_leastBytes_literals (text : List Char) :
    text.length * 32 ≤ (((text.map literal).map outline).map Outline.leastBytes).sum := by
  induction text with
  | nil => exact Nat.le_refl 0
  | cons c text inductionHypothesis =>
      have first := le_leastBytes_literal c
      simp only [List.map_cons, List.sum_cons, List.length_cons] at inductionHypothesis ⊢
      omega

end Written

end ContentBlocking.Pattern
