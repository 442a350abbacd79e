import ContentBlocking.Text.CharSet.Sweep

/-!
# Sets of characters

A set of characters is given by its bounds in increasing order. Every set of code points has
exactly one such list, so equal sets are equal values, and a set of long stretches is short. The
lemmas `mem_…` say which characters belong to a set. The set of blanks stands at the end.
-/

namespace ContentBlocking.Text

/-- A set of characters, given by the code points at which it begins and ends in turn. -/
structure CharSet where
  bounds : List Nat
  ascending : bounds.Pairwise (· < ·)
deriving DecidableEq, Repr

namespace CharSet

def hasCode (set : CharSet) (code : Nat) : Bool := isInside false set.bounds code

def mem (set : CharSet) (c : Char) : Bool := set.hasCode c.toNat

def none : CharSet := ⟨[], .nil⟩

theorem pairwise_codes {first last : Nat} (ordered : first ≤ last) :
    [first, last + 1].Pairwise (· < ·) :=
  .cons (fun _ member => List.mem_singleton.1 member ▸ Nat.lt_succ_of_le ordered)
    (List.pairwise_singleton ..)

def codes (first last : Nat) : CharSet :=
  if ordered : first ≤ last then ⟨[first, last + 1], pairwise_codes ordered⟩ else none

def range (first last : Char) : CharSet := codes first.toNat last.toNat

def single (c : Char) : CharSet := range c c

def lastCode : Nat := 0x10ffff

def all : CharSet := codes 0 lastCode

/-- Joins two sets, character by character. -/
def combine (join : Bool → Bool → Bool) (left right : CharSet) : CharSet :=
  ⟨sweep join left.bounds false false right.bounds,
    pairwise_sweep left.ascending right.ascending⟩

def union : CharSet → CharSet → CharSet := combine (· || ·)

def inter : CharSet → CharSet → CharSet := combine (· && ·)

def diff : CharSet → CharSet → CharSet := combine (fun left right => left && !right)

def symmDiff : CharSet → CharSet → CharSet := combine xor

def compl (set : CharSet) : CharSet := diff all set

def except (c : Char) : CharSet := compl (single c)

def negateIf (negated : Bool) (set : CharSet) : CharSet := if negated then set.compl else set

/-! ## Membership -/

theorem hasCode_codes (first last code : Nat) :
    (codes first last).hasCode code = (decide (first ≤ code) && decide (code ≤ last)) := by
  unfold codes hasCode
  split
  · simp only [isInside]
    grind
  · simp only [none, isInside]
    grind

@[simp] theorem mem_none (c : Char) : none.mem c = false := rfl

theorem mem_range (first last c : Char) :
    (range first last).mem c = (decide (first ≤ c) && decide (c ≤ last)) := by
  rw [mem, range, hasCode_codes]
  rfl

@[simp] theorem mem_single (only c : Char) : (single only).mem c = decide (c = only) := by
  rw [single, mem_range]
  have : only ≤ c ∧ c ≤ only ↔ c = only :=
    ⟨fun h => Char.le_antisymm h.2 h.1, fun h => h ▸ ⟨Char.le_refl _, Char.le_refl _⟩⟩
  grind

theorem toNat_le_lastCode (c : Char) : c.toNat ≤ lastCode := by
  have := c.valid
  simp only [UInt32.isValidChar, Nat.isValidChar] at this
  simp only [Char.toNat, lastCode]
  omega

@[simp] theorem mem_all (c : Char) : all.mem c = true := by
  rw [mem, all, hasCode_codes]
  have := toNat_le_lastCode c
  grind

/-- A join that leaves out what both sets leave out is decided member by member. -/
theorem hasCode_combine {join : Bool → Bool → Bool} (outside : join false false = false)
    (left right : CharSet) (code : Nat) :
    (combine join left right).hasCode code = join (left.hasCode code) (right.hasCode code) := by
  have decided : isInside (join false false) _ code = _ :=
    isInside_sweep left.ascending right.ascending
  rw [outside] at decided
  exact decided

theorem hasCode_union (left right : CharSet) (code : Nat) :
    (left.union right).hasCode code = (left.hasCode code || right.hasCode code) :=
  hasCode_combine rfl left right code

@[simp] theorem mem_union (left right : CharSet) (c : Char) :
    (left.union right).mem c = (left.mem c || right.mem c) :=
  hasCode_union left right c.toNat

theorem hasCode_inter (left right : CharSet) (code : Nat) :
    (left.inter right).hasCode code = (left.hasCode code && right.hasCode code) :=
  hasCode_combine rfl left right code

@[simp] theorem mem_inter (left right : CharSet) (c : Char) :
    (left.inter right).mem c = (left.mem c && right.mem c) :=
  hasCode_inter left right c.toNat

@[simp] theorem mem_diff (left right : CharSet) (c : Char) :
    (left.diff right).mem c = (left.mem c && !right.mem c) :=
  @hasCode_combine (fun left right => left && !right) rfl left right c.toNat

@[simp] theorem mem_symmDiff (left right : CharSet) (c : Char) :
    (left.symmDiff right).mem c = xor (left.mem c) (right.mem c) :=
  hasCode_combine rfl left right c.toNat

@[simp] theorem mem_compl (set : CharSet) (c : Char) : set.compl.mem c = !set.mem c := by
  rw [compl, mem_diff, mem_all, Bool.true_and]

@[simp] theorem mem_except (only c : Char) : (except only).mem c = !decide (c = only) := by
  rw [except, mem_compl, mem_single]

/-! ## Equality -/

/-- Ascending bounds are determined by the code points inside. -/
theorem bounds_eq_of_isInside_eq {inside : Bool} {lefts rights : List Nat}
    (leftAscending : lefts.Pairwise (· < ·)) (rightAscending : rights.Pairwise (· < ·))
    (agree : ∀ code, isInside inside lefts code = isInside inside rights code) :
    lefts = rights := by
  -- Whoever meets a bound first changes sides there, so the first bounds are the same.
  induction lefts generalizing inside rights with
  | nil =>
      cases rights with
      | nil => rfl
      | cons right rights =>
          have turned := agree right
          rw [isInside, isInside, if_neg (Nat.lt_irrefl right),
            isInside_of_lt (List.pairwise_cons.1 rightAscending).1] at turned
          cases inside <;> cases turned
  | cons left lefts ih =>
      obtain ⟨leftAbove, leftTail⟩ := List.pairwise_cons.1 leftAscending
      have leftTurns : isInside inside (left :: lefts) left = !inside := by
        rw [isInside, if_neg (Nat.lt_irrefl left), isInside_of_lt leftAbove]
      cases rights with
      | nil =>
          have turned := agree left
          rw [leftTurns, isInside] at turned
          cases inside <;> cases turned
      | cons right rights =>
          obtain ⟨rightAbove, rightTail⟩ := List.pairwise_cons.1 rightAscending
          have rightTurns : isInside inside (right :: rights) right = !inside := by
            rw [isInside, if_neg (Nat.lt_irrefl right), isInside_of_lt rightAbove]
          have same : left = right := by
            rcases Nat.lt_trichotomy left right with lower | same | higher
            · have turned := agree left
              rw [leftTurns, isInside, if_pos lower] at turned
              cases inside <;> cases turned
            · exact same
            · have turned := agree right
              rw [rightTurns, isInside, if_pos higher] at turned
              cases inside <;> cases turned
          subst same
          congr 1
          refine @ih (!inside) rights leftTail rightTail fun code => ?_
          have onward := agree code
          rw [isInside, isInside] at onward
          split at onward
          · rename_i below
            rw [isInside_of_lt fun other member => Nat.lt_trans below (leftAbove other member),
              isInside_of_lt fun other member => Nat.lt_trans below (rightAbove other member)]
          · exact onward

/-- Sets with the same code points are equal. -/
theorem ext_hasCode {left right : CharSet}
    (agree : ∀ code, left.hasCode code = right.hasCode code) : left = right := by
  have same := bounds_eq_of_isInside_eq left.ascending right.ascending agree
  cases left
  cases right
  cases same
  rfl

/-! ## Unions of many sets -/

/-- Neighbouring sets united. -/
def unionPairs : List CharSet → List CharSet
  | first :: second :: rest => first.union second :: unionPairs rest
  | sets => sets

/-- The union of many sets, after so many rounds in which neighbours are united. -/
def unionRounds : Nat → List CharSet → CharSet
  | 0, sets => sets.foldr union none
  | rounds + 1, sets => unionRounds rounds (unionPairs sets)

/-- The union of many sets. Uniting neighbours first keeps the intermediate sets small. -/
def unionAll (sets : List CharSet) : CharSet := unionRounds (sets.length.log2 + 1) sets

def ofChars (chars : List Char) : CharSet := unionAll (chars.map single)

def ofRanges (ranges : List (Char × Char)) : CharSet :=
  unionAll (ranges.map fun (first, last) => range first last)

theorem any_hasCode_unionPairs (sets : List CharSet) (code : Nat) :
    (unionPairs sets).any (fun set => set.hasCode code) =
      sets.any (fun set => set.hasCode code) := by
  fun_induction unionPairs sets with
  | case1 first second rest ih => simp [ih, hasCode_union, Bool.or_assoc]
  | case2 => rfl

theorem hasCode_unionRounds (rounds : Nat) (sets : List CharSet) (code : Nat) :
    (unionRounds rounds sets).hasCode code = sets.any (fun set => set.hasCode code) := by
  induction rounds generalizing sets with
  | zero =>
      rw [unionRounds]
      induction sets with
      | nil => rfl
      | cons set sets ih => rw [List.foldr_cons, hasCode_union, ih, List.any_cons]
  | succ rounds ih => rw [unionRounds, ih, any_hasCode_unionPairs]

theorem hasCode_unionAll (sets : List CharSet) (code : Nat) :
    (unionAll sets).hasCode code = sets.any (fun set => set.hasCode code) :=
  hasCode_unionRounds _ _ _

@[simp] theorem mem_unionAll (sets : List CharSet) (c : Char) :
    (unionAll sets).mem c = sets.any (fun set => set.mem c) :=
  hasCode_unionAll sets c.toNat

theorem hasCode_ofChars (chars : List Char) (code : Nat) :
    (ofChars chars).hasCode code = chars.any (fun c => c.toNat = code) := by
  rw [ofChars, hasCode_unionAll, List.any_map]
  congr 1
  funext c
  rw [Function.comp, single, range, hasCode_codes]
  grind

@[simp] theorem mem_ofChars (chars : List Char) (c : Char) :
    (ofChars chars).mem c = chars.contains c := by
  rw [mem, hasCode_ofChars, List.contains_eq_any_beq]
  congr 1
  funext other
  rw [Bool.eq_iff_iff, decide_eq_true_eq, Char.toNat_inj, beq_iff_eq, eq_comm]

/-! ## Ranges -/

/-- The ranges of code points between bounds. -/
def rangesBetween : List Nat → List (Nat × Nat)
  | [] => []
  | [first] => [(first, lastCode)]
  | first :: next :: rest => (first, next - 1) :: rangesBetween rest

def ranges (set : CharSet) : List (Nat × Nat) := rangesBetween set.bounds

def toList (set : CharSet) : List Char :=
  set.ranges.flatMap fun (first, last) => (List.range' first (last + 1 - first)).map Char.ofNat

theorem exists_range_of_isInside {bounds : List Nat} {code : Nat}
    (inside : isInside false bounds code = true) (known : code ≤ lastCode) :
    ∃ range ∈ rangesBetween bounds, range.1 ≤ code ∧ code ≤ range.2 := by
  fun_induction rangesBetween bounds with
  | case1 => cases inside
  | case2 first =>
      rw [isInside] at inside
      split at inside
      · cases inside
      · exact ⟨(first, lastCode), List.mem_singleton_self _, Nat.le_of_not_lt ‹_›, known⟩
  | case3 first next rest ih =>
      rw [isInside, isInside] at inside
      split at inside
      · cases inside
      · split at inside
        · exact ⟨(first, next - 1), List.mem_cons_self, Nat.le_of_not_lt ‹_›,
            Nat.le_sub_one_of_lt ‹_›⟩
        · obtain ⟨range, member, within⟩ := ih inside
          exact ⟨range, List.mem_cons_of_mem _ member, within⟩

theorem first_mem_of_mem_rangesBetween {bounds : List Nat} {range : Nat × Nat}
    (member : range ∈ rangesBetween bounds) : range.1 ∈ bounds := by
  fun_induction rangesBetween bounds with
  | case1 => cases member
  | case2 first => cases List.mem_singleton.1 member; exact List.mem_singleton_self first
  | case3 first next rest ih =>
      rcases List.mem_cons.1 member with rfl | later
      · exact List.mem_cons_self
      · exact List.mem_cons_of_mem first (List.mem_cons_of_mem next (ih later))

theorem isInside_of_mem_rangesBetween {bounds : List Nat} {range : Nat × Nat} {code : Nat}
    (ascending : bounds.Pairwise (· < ·)) (member : range ∈ rangesBetween bounds)
    (notBelow : range.1 ≤ code) (notAbove : code ≤ range.2) :
    isInside false bounds code = true := by
  fun_induction rangesBetween bounds with
  | case1 => cases member
  | case2 first =>
      cases List.mem_singleton.1 member
      rw [isInside, if_neg (Nat.not_lt_of_le notBelow)]
      rfl
  | case3 first next rest ih =>
      obtain ⟨firstBelow, ascending⟩ := List.pairwise_cons.1 ascending
      obtain ⟨nextBelow, ascending⟩ := List.pairwise_cons.1 ascending
      have ordered := firstBelow next List.mem_cons_self
      rcases List.mem_cons.1 member with rfl | later
      · rw [isInside, if_neg (Nat.not_lt_of_le notBelow), isInside, if_pos (by omega)]
        rfl
      · have behind := nextBelow range.1 (first_mem_of_mem_rangesBetween later)
        rw [isInside, if_neg (by omega), isInside, if_neg (by omega)]
        exact ih ascending later

/-- Every member of a set is listed. -/
theorem mem_toList_of_mem {set : CharSet} {c : Char} (member : set.mem c = true) :
    c ∈ set.toList := by
  obtain ⟨range, isRange, notBelow, notAbove⟩ :=
    exists_range_of_isInside member (toNat_le_lastCode c)
  refine List.mem_flatMap.2 ⟨range, isRange, List.mem_map.2 ⟨c.toNat, ?_, Char.ofNat_toNat c⟩⟩
  rw [List.mem_range'_1]
  omega

/-- What is listed comes from a code point of the set, which need not be a character. -/
theorem exists_hasCode_of_mem_toList {set : CharSet} {c : Char} (listed : c ∈ set.toList) :
    ∃ code, set.hasCode code = true ∧ Char.ofNat code = c := by
  obtain ⟨range, isRange, fromRange⟩ := List.mem_flatMap.1 listed
  obtain ⟨code, within, ofCode⟩ := List.mem_map.1 fromRange
  rw [List.mem_range'_1] at within
  exact ⟨code,
    isInside_of_mem_rangesBetween set.ascending isRange within.1 (by omega), ofCode⟩

def isAscii (set : CharSet) : Bool := set.ranges.all (fun range => range.2 < 0x80)

/-- The character of a set that has just one. -/
def sole? (set : CharSet) : Option Char :=
  match set.ranges with
  | [(first, last)] => if first = last then some (Char.ofNat first) else Option.none
  | _ => Option.none

end CharSet

/-! ## Blanks -/

/-- The characters with the property `White_Space`. -/
def blanks : CharSet :=
  .ofRanges [('\t', '\r'), (' ', ' '), ('\u0085', '\u0085'), ('\u00a0', '\u00a0'),
    ('\u1680', '\u1680'), ('\u2000', '\u200a'), ('\u2028', '\u2029'), ('\u202f', '\u202f'),
    ('\u205f', '\u205f'), ('\u3000', '\u3000')]

def asciiBlanks : CharSet := .ofRanges [('\t', '\r'), (' ', ' ')]

def isBlank (c : Char) : Bool := blanks.mem c

end ContentBlocking.Text
