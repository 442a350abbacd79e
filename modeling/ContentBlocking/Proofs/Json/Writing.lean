import ContentBlocking.Json.Document
import ContentBlocking.Proofs.Json.Reading

/-!
# Written documents are read back

The text of a document spells a value, in either layout, so the reader finds this value in it.
-/

namespace ContentBlocking.Json

/-! ## Strings -/

def writtenPiece (c : Char) : Piece :=
  if c < ' ' ∧ c ∉ ['\x08', '\x0c', '\n', '\r', '\t'] then .unit c.toNat else .char c

def WrittenText.ofString (text : String) : WrittenText := ⟨text.toList.map writtenPiece, none⟩

theorem hexUnit?_hexDigit : ∀ code < 32,
    hexUnit? (.char '0') (.char '0') (.char (hexDigit (code / 16))) (.char (hexDigit (code % 16))) =
      some code := by
  decide

theorem toNat_lt_of_lt_blank {c : Char} (control : c < ' ') : c.toNat < 32 := control

/-- A character is written as a spelling of its piece. -/
theorem spellsPiece_escapeChar (c : Char) :
    SpellsPiece ((escapeChar c).map .char) (writtenPiece c) := by
  unfold escapeChar
  split
  case h_8 =>
    rename_i noQuote noBackslash noBackspace noFormFeed noLineFeed noReturn noTab
    split
    · rename_i control
      have piece : writtenPiece c = .unit c.toNat := by
        rw [writtenPiece, if_pos]
        simp_all
      rw [piece]
      exact .unit (hexUnit?_hexDigit c.toNat (toNat_lt_of_lt_blank control))
    · rename_i visible
      have piece : writtenPiece c = .char c := by
        rw [writtenPiece, if_neg]
        simp [visible]
      rw [piece]
      exact .plain (by simp_all) visible
  all_goals exact .escaped rfl

theorem spellsText_writeText (text : String) :
    SpellsText ((writeText text).map .char) (.ofString text) := by
  have pieces : ∀ characters : List Char,
      SpellsPieces ((characters.flatMap escapeChar).map .char) (characters.map writtenPiece) := by
    intro characters
    induction characters with
    | nil => exact .nil
    | cons c characters inductionHypothesis =>
        rw [List.flatMap_cons, List.map_append, List.map_cons]
        exact .cons (spellsPiece_escapeChar c) inductionHypothesis
  have quoted := SpellsText.quoted (pieces text.toList)
  simpa [writeText, WrittenText.ofString] using quoted

theorem decodePieces_unit {value : Nat} (control : value < 32) (fault : Option Fault)
    (done : List Char) (strayed : Bool) (rest : List Piece) :
    decodePieces fault done strayed (.unit value :: rest) =
      decodePieces fault (Char.ofNat value :: done) strayed rest := by
  have low : isLowSurrogate value = false := by
    simp [isLowSurrogate]
    omega
  have high : isHighSurrogate value = false := by
    simp [isHighSurrogate]
    omega
  -- A unit in front of another one is looked at by an equation of its own.
  rcases rest with _ | ⟨_ | _ | _, rest⟩ <;> simp [decodePieces, low, high]

/-- The piece for a character stands for this character. -/
theorem decodePieces_writtenPiece (c : Char) (done : List Char) (rest : List Piece) :
    decodePieces none done false (writtenPiece c :: rest) =
      decodePieces none (c :: done) false rest := by
  unfold writtenPiece
  split
  · rename_i control
    rw [decodePieces_unit (toNat_lt_of_lt_blank control.1), Char.ofNat_toNat]
  · rw [decodePieces]

/-- A string is decoded from the pieces that it is written as. -/
theorem decode_ofString (text : String) : (WrittenText.ofString text).decode = .ok text := by
  have pieces : ∀ (characters done : List Char),
      decodePieces none done false (characters.map writtenPiece) =
        .ok (done.reverse ++ characters) := by
    intro characters
    induction characters with
    | nil => simp [decodePieces]
    | cons c characters inductionHypothesis =>
        intro done
        rw [List.map_cons, decodePieces_writtenPiece, inductionHypothesis]
        simp
  rw [WrittenText.decode, WrittenText.ofString, pieces]
  simp [Except.map]

/-! ## Documents -/

mutual

/-- The value that the text of a document is read as. Numbers are left open. -/
def Document.value : Document → Value
  | .text content => .text (.ofString content)
  | .number _ => .absent .malformed
  | .array items => .array (itemValues items) .closed
  | .object members => .object (memberValues members) .closed

def itemValues : List Document → List Value
  | [] => []
  | item :: rest => item.value :: itemValues rest

def memberValues : List (String × Document) → List Member
  | [] => []
  | (key, document) :: rest => (.ofString key, document.value) :: memberValues rest

end

mutual

def Document.Numberless : Document → Prop
  | .text _ => True
  | .number _ => False
  | .array items => ItemsNumberless items
  | .object members => MembersNumberless members

def ItemsNumberless : List Document → Prop
  | [] => True
  | item :: rest => item.Numberless ∧ ItemsNumberless rest

def MembersNumberless : List (String × Document) → Prop
  | [] => True
  | (_, document) :: rest => document.Numberless ∧ MembersNumberless rest

end

theorem isBlank_lineBreak (layout : Layout) (level : Nat) :
    IsBlank ((layout.lineBreak level).map .char) := by
  intro symbol member
  cases layout with
  | compact => cases member
  | pretty =>
      simp only [Layout.lineBreak, List.map_cons, List.map_replicate, List.mem_cons,
        List.mem_replicate] at member
      rcases member with rfl | ⟨_, rfl⟩ <;> exact ⟨_, rfl, rfl⟩

theorem isBlank_nil : IsBlank [] := by
  intro symbol member
  cases member

theorem exists_colon (layout : Layout) :
    ∃ space, IsBlank space ∧ layout.colon.map Symbol.char = .char ':' :: space := by
  cases layout with
  | compact => exact ⟨[], isBlank_nil, rfl⟩
  | pretty =>
      refine ⟨[.char ' '], ?_, rfl⟩
      intro symbol member
      rw [List.mem_singleton.mp member]
      exact ⟨_, rfl, rfl⟩

mutual

/-- What is written for a document, at whatever level, spells its value. -/
theorem spells_write (layout : Layout) (level : Nat) : ∀ document : Document,
    document.Numberless → Spells ((document.write layout level).map .char) (.value document.value)
  | .text content, _ => .text (spellsText_writeText content)
  | .array [], _ => .emptyArray isBlank_nil
  | .array (first :: rest), numberless => by
      have firstSpelled := spells_write layout (level + 1) first numberless.1
      have further := further_writeItems layout (level + 1) (isBlank_lineBreak layout level) rest
        numberless.2
      have items := further.spells (isBlank_lineBreak layout (level + 1)) firstSpelled
      simpa [Document.write, Document.value, itemValues] using Spells.array items
  | .object [], _ => .emptyObject isBlank_nil
  | .object ((key, first) :: rest), numberless => by
      have firstSpelled := spells_write layout (level + 1) first numberless.1
      have further := further_writeMembers layout (level + 1) (isBlank_lineBreak layout level) rest
        numberless.2
      obtain ⟨space, spaceBlank, colon⟩ := exists_colon layout
      have members := further.spells (isBlank_lineBreak layout (level + 1))
        (spellsText_writeText key) isBlank_nil spaceBlank firstSpelled
      simpa [Document.write, Document.value, memberValues, colon] using Spells.object members

theorem further_writeItems (layout : Layout) (level : Nat) {after : List Symbol}
    (blank : IsBlank after) : ∀ items : List Document, ItemsNumberless items →
      SpellsFurtherItems ((writeItems layout level items).map .char ++ after) (itemValues items)
  | [], _ => .none blank
  | item :: rest, numberless => by
      have itemSpelled := spells_write layout level item numberless.1
      have further := further_writeItems layout level blank rest numberless.2
      have items := further.spells (isBlank_lineBreak layout level) itemSpelled
      simpa [writeItems, itemValues] using SpellsFurtherItems.more isBlank_nil items

theorem further_writeMembers (layout : Layout) (level : Nat) {after : List Symbol}
    (blank : IsBlank after) : ∀ members : List (String × Document), MembersNumberless members →
      SpellsFurtherMembers ((writeMembers layout level members).map .char ++ after)
        (memberValues members)
  | [], _ => .none blank
  | (key, document) :: rest, numberless => by
      have documentSpelled := spells_write layout level document numberless.1
      have further := further_writeMembers layout level blank rest numberless.2
      obtain ⟨space, spaceBlank, colon⟩ := exists_colon layout
      have members := further.spells (isBlank_lineBreak layout level) (spellsText_writeText key)
        isBlank_nil spaceBlank documentSpelled
      simpa [writeMembers, memberValues, colon] using SpellsFurtherMembers.more isBlank_nil members

end

theorem spells_render (layout : Layout) {document : Document} (numberless : document.Numberless) :
    Spells (Symbol.ofString (document.render layout)) (.spaced document.value) := by
  have spelled := Spells.spaced isBlank_nil (spells_write layout 0 document numberless) isBlank_nil
  simpa [Symbol.ofString, Document.render] using spelled

/-- A written document is read as its value, and nothing follows it. -/
theorem read_render (layout : Layout) {document : Document} (numberless : document.Numberless) :
    read (Symbol.ofString (document.render layout)) = ⟨document.value, false⟩ :=
  read_of_spells (spells_render layout numberless)

end ContentBlocking.Json
