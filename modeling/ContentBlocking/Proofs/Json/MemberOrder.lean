import ContentBlocking.Proofs.Json.Members
import ContentBlocking.Proofs.SortedMap
import Mathlib.Data.List.Pairwise
import Mathlib.Data.List.Perm.Basic

/-!
# The order of members

Members with different names can change places as far as the outcome is the same up to what nobody
looks at. From such exchanges follows that any order is as good as any other, if only the members
with the same name keep theirs.
-/

namespace ContentBlocking.Json

variable {α β γ σ : Type}

def isNamed (name : String) (member : Member) : Bool := member.1.decode.toOption = some name

theorem isNamed_iff {name : String} {member : Member} :
    isNamed name member = true ↔ member.1.decode = .ok name := by
  cases decoded : member.1.decode <;> simp [isNamed, decoded, Except.toOption]

/-- Whether the members with the same name have the same order in two lists. -/
def SameOrder (members others : List Member) : Prop :=
  ∀ name, members.filter (isNamed name) = others.filter (isNamed name)

/-- Whether two members have no name in common. -/
def Apart (first second : Member) : Prop :=
  ∀ name, ¬ (isNamed name first = true ∧ isNamed name second = true)

/-- A way to take members whose outcome does not depend on the order of members with different
names. Two states agree if nobody will notice a difference. -/
structure OrderFree (take : σ → Member → Decoded σ) (agree : σ → σ → Prop) : Prop where
  same : ∀ state, agree state state
  trans : ∀ {first second third}, agree first second → agree second third → agree first third
  follows : ∀ {state other next member}, agree state other → take state member = .ok next →
    ∃ otherNext, take other member = .ok otherNext ∧ agree next otherNext
  exchange : ∀ {state between next first second}, Apart first second →
    take state first = .ok between → take between second = .ok next →
      ∃ otherBetween otherNext, take state second = .ok otherBetween ∧
        take otherBetween first = .ok otherNext ∧ agree next otherNext

/-- In a reordering that keeps equal names in order, the first member stands behind others that have
no name in common with it. -/
theorem exists_apart_of_sameOrder {first : Member} {rest others : List Member}
    (permuted : (first :: rest).Perm others) (ordered : SameOrder (first :: rest) others) :
    ∃ before after, others = before ++ first :: after ∧ (∀ member ∈ before, Apart first member) ∧
      rest.Perm (before ++ after) ∧ SameOrder rest (before ++ after) := by
  have split : ∃ before after, others = before ++ first :: after ∧
      ∀ member ∈ before, Apart first member := by
    by_cases named : ∃ name, isNamed name first = true
    · -- The first member with this name comes first in the other list as well.
      obtain ⟨name, firstNamed⟩ := named
      have order := ordered name
      rw [List.filter_cons_of_pos firstNamed] at order
      obtain ⟨before, after, whole, unnamed, _⟩ := List.filter_eq_cons_iff.mp order.symm
      refine ⟨before, after, whole, fun member inside other both => ?_⟩
      have same : other = name :=
        Except.ok.inj ((isNamed_iff.mp both.1).symm.trans (isNamed_iff.mp firstNamed))
      exact unnamed member inside (same ▸ both.2)
    · obtain ⟨before, after, whole⟩ := List.append_of_mem (permuted.subset List.mem_cons_self)
      exact ⟨before, after, whole, fun member _ name both => named ⟨name, both.1⟩⟩
  obtain ⟨before, after, rfl, apart⟩ := split
  refine ⟨before, after, rfl, apart, (permuted.trans List.perm_middle).cons_inv, fun name => ?_⟩
  have order := ordered name
  by_cases firstNamed : isNamed name first = true
  · have noneBefore : before.filter (isNamed name) = [] := by
      rw [List.filter_eq_nil_iff]
      exact fun member inside memberNamed => apart member inside name ⟨firstNamed, memberNamed⟩
    simpa [firstNamed, noneBefore] using order
  · simpa [firstNamed] using order

namespace OrderFree

variable {take : σ → Member → Decoded σ} {agree : σ → σ → Prop}

/-- From agreeing states the same members lead to agreeing states. -/
theorem foldlM_follows (free : OrderFree take agree) (members : List Member) :
    ∀ {state other next}, agree state other → members.foldlM take state = .ok next →
      ∃ otherNext, members.foldlM take other = .ok otherNext ∧ agree next otherNext := by
  induction members with
  | nil =>
      intro state other next agreed taken
      cases taken
      exact ⟨other, rfl, agreed⟩
  | cons member members inductionHypothesis =>
      intro state other next agreed taken
      rw [List.foldlM_cons] at taken
      obtain ⟨between, first, rest⟩ := Decoded.bind_eq_ok.mp taken
      obtain ⟨otherBetween, otherFirst, agreedBetween⟩ := free.follows agreed first
      obtain ⟨otherNext, otherRest, agreedNext⟩ := inductionHypothesis agreedBetween rest
      refine ⟨otherNext, ?_, agreedNext⟩
      rw [List.foldlM_cons]
      exact Decoded.bind_eq_ok.mpr ⟨otherBetween, otherFirst, otherRest⟩

/-- A member can be taken after those that it stands in front of. -/
theorem foldlM_middle (free : OrderFree take agree) {first : Member} {after : List Member}
    (before : List Member) :
    ∀ {state between next}, (∀ member ∈ before, Apart first member) →
      take state first = .ok between → (before ++ after).foldlM take between = .ok next →
        ∃ otherNext, (before ++ first :: after).foldlM take state = .ok otherNext ∧
          agree next otherNext := by
  induction before with
  | nil =>
      intro state between next _ taken rest
      refine ⟨next, ?_, free.same next⟩
      rw [List.nil_append, List.foldlM_cons]
      exact Decoded.bind_eq_ok.mpr ⟨between, taken, rest⟩
  | cons member before inductionHypothesis =>
      -- The next member is taken first instead; from there on the rest is the same up to agreement.
      intro state between next apart taken rest
      rw [List.cons_append, List.foldlM_cons] at rest
      obtain ⟨beyond, memberTaken, rest⟩ := Decoded.bind_eq_ok.mp rest
      obtain ⟨memberFirst, both, memberTakenFirst, firstTaken, agreed⟩ :=
        free.exchange (apart member List.mem_cons_self) taken memberTaken
      obtain ⟨otherNext, otherRest, agreedNext⟩ := free.foldlM_follows _ agreed rest
      have others : ∀ other ∈ before, Apart first other := fun other inside =>
        apart other (List.mem_cons_of_mem member inside)
      obtain ⟨last, lastTaken, agreedLast⟩ := inductionHypothesis others firstTaken otherRest
      refine ⟨last, ?_, free.trans agreedNext agreedLast⟩
      rw [List.cons_append, List.foldlM_cons]
      exact Decoded.bind_eq_ok.mpr ⟨memberFirst, memberTakenFirst, lastTaken⟩

/-- Reordered members lead to an agreeing state if those with the same name keep their order. -/
theorem foldlM_perm (free : OrderFree take agree) (members : List Member) :
    ∀ {others : List Member} {state next : σ}, members.Perm others → SameOrder members others →
      members.foldlM take state = .ok next →
        ∃ otherNext, others.foldlM take state = .ok otherNext ∧ agree next otherNext := by
  induction members with
  | nil =>
      intro others state next permuted _ taken
      cases permuted.nil_eq
      exact ⟨next, taken, free.same next⟩
  | cons first rest inductionHypothesis =>
      intro others state next permuted ordered taken
      rw [List.foldlM_cons] at taken
      obtain ⟨between, firstTaken, restTaken⟩ := Decoded.bind_eq_ok.mp taken
      obtain ⟨before, after, rfl, apart, restPermuted, restOrdered⟩ :=
        exists_apart_of_sameOrder permuted ordered
      obtain ⟨otherNext, otherTaken, agreed⟩ :=
        inductionHypothesis restPermuted restOrdered restTaken
      obtain ⟨last, lastTaken, agreedLast⟩ := free.foldlM_middle before apart firstTaken otherTaken
      exact ⟨last, lastTaken, free.trans agreed agreedLast⟩

end OrderFree

/-! ## Maps and records -/

theorem Apart.ne {first second : Member} {name other : String} (apart : Apart first second)
    (firstNamed : first.1.decode = .ok name) (secondNamed : second.1.decode = .ok other) :
    name ≠ other := by
  rintro rfl
  exact apart name ⟨isNamed_iff.mpr firstNamed, isNamed_iff.mpr secondNamed⟩

theorem takeEntry_orderFree (decode : Decoder α) : OrderFree (takeEntry decode) Eq where
  same _ := rfl
  trans := Eq.trans
  follows := by
    rintro state _ next member rfl taken
    exact ⟨next, taken, rfl⟩
  exchange := by
    intro state between next first second apart firstTaken secondTaken
    obtain ⟨name, decoded, firstNamed, firstDecoded, rfl⟩ := takeEntry_eq_ok.mp firstTaken
    obtain ⟨other, otherDecoded, secondNamed, secondDecoded, rfl⟩ := takeEntry_eq_ok.mp secondTaken
    have apartNames := apart.ne firstNamed secondNamed
    refine ⟨state.insert other otherDecoded, _, ?_, ?_, rfl⟩
    · exact takeEntry_eq_ok.mpr ⟨other, otherDecoded, secondNamed, secondDecoded, rfl⟩
    · rw [SortedMap.insert_insert_comm state apartNames]
      exact takeEntry_eq_ok.mpr ⟨name, decoded, firstNamed, firstDecoded, rfl⟩

/-- Whether two fields are stored independently of each other. -/
def Exchangeable (first second : RecordField α) : Prop :=
  ∀ value other record result,
    (∃ between, first.store value record = .ok between ∧ second.store other between = .ok result) ↔
      ∃ between, second.store other record = .ok between ∧ first.store value between = .ok result

instance : Std.Symm (Exchangeable : RecordField α → RecordField α → Prop) where
  symm _ _ exchangeable value other record result := (exchangeable other value record result).symm

/-- Fields that are put into different places of a record are independent. -/
theorem exchangeable_of_puts {decode : Decoder β} {decodeOther : Decoder γ} {put : α → β → α}
    {putOther : α → γ → α} {name otherName : String} {required otherRequired : Bool}
    (independent : ∀ record content other,
      putOther (put record content) other = put (putOther record other) content) :
    Exchangeable ⟨name, required, fun value record => (decode value).map (put record)⟩
      ⟨otherName, otherRequired, fun value record =>
        (decodeOther value).map (putOther record)⟩ := by
  intro value other record result
  simp only [Decoded.map_eq_ok]
  constructor
  · rintro ⟨_, ⟨content, decoded, rfl⟩, ⟨otherContent, otherDecoded, rfl⟩⟩
    exact ⟨_, ⟨otherContent, otherDecoded, rfl⟩, content, decoded, (independent ..).symm⟩
  · rintro ⟨_, ⟨otherContent, otherDecoded, rfl⟩, ⟨content, decoded, rfl⟩⟩
    exact ⟨_, ⟨content, decoded, rfl⟩, otherContent, otherDecoded, independent ..⟩

@[simp] theorem exchangeable_maybe_maybe {decode : Decoder β} {decodeOther : Decoder γ}
    {put : α → Option β → α} {putOther : α → Option γ → α} {name otherName : String}
    (independent : ∀ record content other,
      putOther (put record content) other = put (putOther record other) content) :
    Exchangeable (.maybe name decode put) (.maybe otherName decodeOther putOther) :=
  exchangeable_of_puts independent

@[simp] theorem exchangeable_needed_maybe {decode : Decoder β} {decodeOther : Decoder γ}
    {put : α → β → α} {putOther : α → Option γ → α} {name otherName : String}
    (independent : ∀ record content other,
      putOther (put record content) other = put (putOther record other) content) :
    Exchangeable (.needed name decode put) (.maybe otherName decodeOther putOther) :=
  exchangeable_of_puts independent

@[simp] theorem exchangeable_needed_needed {decode : Decoder β} {decodeOther : Decoder γ}
    {put : α → β → α} {putOther : α → γ → α} {name otherName : String}
    (independent : ∀ record content other,
      putOther (put record content) other = put (putOther record other) content) :
    Exchangeable (.needed name decode put) (.needed otherName decodeOther putOther) :=
  exchangeable_of_puts independent

/-- Whether two states of a record are the same but for the order in which names were seen. -/
def AgreeingStates (state other : List String × α) : Prop :=
  state.2 = other.2 ∧ ∀ name, name ∈ state.1 ↔ name ∈ other.1

theorem takes_follows {fields : List (RecordField α)} {state other next : List String × α}
    {member : Member} (agreed : AgreeingStates state other)
    (taken : Takes fields state member next) :
    ∃ otherNext, Takes fields other member otherNext ∧ AgreeingStates next otherNext := by
  obtain ⟨otherSeen, otherRecord⟩ := other
  cases taken with
  | unknown named unknown whole => exact ⟨_, .unknown named unknown whole, agreed⟩
  | known named known fresh stored =>
      obtain ⟨rfl, seen⟩ := agreed
      refine ⟨_, .known named known (fun found => fresh ((seen _).mpr found)) stored, rfl, ?_⟩
      intro name
      simp [seen]

theorem field_ne_of_find? {fields : List (RecordField α)} {field otherField : RecordField α}
    {name other : String} (known : fields.find? (fun field => field.name = name) = some field)
    (otherKnown : fields.find? (fun field => field.name = other) = some otherField)
    (apart : name ≠ other) : field ≠ otherField := by
  have fieldName : field.name = name := by simpa using List.find?_some known
  have otherFieldName : otherField.name = other := by simpa using List.find?_some otherKnown
  rintro rfl
  exact apart (fieldName.symm.trans otherFieldName)

/-- A record with independent fields takes two neighbours of different names in either order. -/
theorem takes_exchange {fields : List (RecordField α)} (pairwise : fields.Pairwise Exchangeable)
    {state between next : List String × α} {first second : Member} (apart : Apart first second)
    (firstTaken : Takes fields state first between)
    (secondTaken : Takes fields between second next) :
    ∃ otherBetween otherNext, Takes fields state second otherBetween ∧
      Takes fields otherBetween first otherNext ∧ AgreeingStates next otherNext := by
  cases firstTaken with
  | unknown named unknown whole =>
      exact ⟨next, next, secondTaken, .unknown named unknown whole, rfl, fun _ => Iff.rfl⟩
  | @known seen record halfway _ name field named known fresh stored =>
      cases secondTaken with
      | unknown otherNamed otherUnknown whole =>
          exact ⟨_, _, .unknown otherNamed otherUnknown whole, .known named known fresh stored, rfl,
            fun _ => Iff.rfl⟩
      | @known _ _ last _ other otherField otherNamed otherKnown otherFresh otherStored =>
          have apartNames := apart.ne named otherNamed
          have apartFields := field_ne_of_find? known otherKnown apartNames
          have exchangeable := pairwise.forall (List.mem_of_find?_eq_some known)
            (List.mem_of_find?_eq_some otherKnown) apartFields
          obtain ⟨beside, otherFirst, firstThen⟩ :=
            (exchangeable _ _ _ _).mp ⟨halfway, stored, otherStored⟩
          have otherFreshFirst : other ∉ seen := fun found =>
            otherFresh (List.mem_cons_of_mem name found)
          have stillFresh : name ∉ other :: seen := by
            simp [apartNames, fresh]
          refine ⟨_, _, .known otherNamed otherKnown otherFreshFirst otherFirst,
            .known named known stillFresh firstThen, rfl, fun candidate => ?_⟩
          simp [or_left_comm]

/-- The order of members does not matter to a record whose fields are stored independently. -/
theorem takeMember_orderFree {fields : List (RecordField α)}
    (pairwise : fields.Pairwise Exchangeable) : OrderFree (takeMember fields) AgreeingStates where
  same _ := ⟨rfl, fun _ => Iff.rfl⟩
  trans first second := ⟨first.1.trans second.1, fun name => (first.2 name).trans (second.2 name)⟩
  follows agreed taken := by
    simp only [takeMember_eq_ok] at taken ⊢
    exact takes_follows agreed taken
  exchange apart firstTaken secondTaken := by
    simp only [takeMember_eq_ok] at firstTaken secondTaken ⊢
    exact takes_exchange pairwise apart firstTaken secondTaken

end ContentBlocking.Json
