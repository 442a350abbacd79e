import Mathlib.Data.List.TakeWhile
import ContentBlocking.Url

/-!
# Where the host of a URL ends

The host of a URL is what stands between the first `://` and a port number, unless the authority has
user information. So a text with a colon only in `://` is passed over, and a host is found if
nothing but a port number stands between it and the end of the authority.
-/

namespace ContentBlocking.Url

/-! ## Port numbers -/

def IsNumber (text : List Char) : Prop := text ≠ [] ∧ ∀ c ∈ text, c.isDigit = true

instance (text : List Char) : Decidable (IsNumber text) :=
  decidable_of_iff (text ≠ [] ∧ text.all Char.isDigit = true) (by rw [IsNumber, List.all_eq_true])

def IsPort (text : List Char) : Prop := ∃ number, text = ':' :: number ∧ IsNumber number

def IsOptionalPort (text : List Char) : Prop := text = [] ∨ IsPort text

/-- A port number whose colon may be absent, or nothing. -/
def IsLoosePort (text : List Char) : Prop := IsOptionalPort text ∨ IsNumber text

/-! ## Marks -/

/-- The characters that cannot stand in a host, since they end it or what is in front of it. -/
def endsHost (c : Char) : Bool := c ∈ ['/', '?', '#', '@', ':']

variable {c : Char} {front host port rest text : List Char}

theorem endsAuthority_of_not_endsHost (inHost : endsHost c = false) : endsAuthority c = false := by
  simp only [endsHost, List.mem_cons, List.not_mem_nil, decide_eq_false_iff_not, not_or] at inHost
  simp [endsAuthority, inHost]

theorem ne_of_not_endsHost (inHost : endsHost c = false) : c ≠ '@' ∧ c ≠ ':' := by
  simp only [endsHost, List.mem_cons, List.not_mem_nil, decide_eq_false_iff_not, not_or] at inHost
  exact ⟨inHost.2.2.2.1, inHost.2.2.2.2.1⟩

/-! ## Authorities -/

/-- The first `://` cannot overlap with another one. -/
theorem afterScheme_append_of_not_infix (noMark : ¬ "://".toList <:+: front) :
    afterScheme (front ++ "://".toList ++ rest) = some rest := by
  induction front with
  | nil => rfl
  | cons first front inductionHypothesis =>
      have later := inductionHypothesis fun inside => noMark (List.infix_cons inside)
      rw [List.cons_append, List.cons_append, afterScheme]
      · exact later
      · intro others colon
        subst colon
        match front with
        | [] => simp
        | [second] => simp
        | second :: third :: more =>
            intro marked
            cases marked
            exact noMark ⟨[], more, rfl⟩

theorem afterScheme_append (noColon : ':' ∉ front) :
    afterScheme (front ++ "://".toList ++ rest) = some rest := by
  apply afterScheme_append_of_not_infix
  intro inside
  exact noColon (inside.subset (by decide))

theorem afterLast_append_of_mem {separator : Char} (present : separator ∈ text) :
    afterLast separator (front ++ text) = afterLast separator text := by
  have stops : (text.reverse.takeWhile fun c => c ≠ separator).length ≠ text.reverse.length := by
    intro whole
    have everything := (List.takeWhile_prefix fun c => decide (c ≠ separator)).eq_of_length whole
    rw [List.takeWhile_eq_self_iff] at everything
    have different := everything separator (List.mem_reverse.mpr present)
    exact of_decide_eq_true different rfl
  rw [afterLast, List.reverse_append, List.takeWhile_append, if_neg stops]
  rfl

theorem all_ne_of_not_mem {separator : Char} (absent : separator ∉ text) :
    ∀ c ∈ text, decide (c ≠ separator) = true := by
  intro c member
  rw [decide_eq_true_eq]
  intro same
  subst same
  exact absent member

theorem afterLast_append_of_not_mem {separator : Char} (absent : separator ∉ text) :
    afterLast separator (front ++ text) = afterLast separator front ++ text := by
  have passed := all_ne_of_not_mem (mt List.mem_reverse.mp absent)
  rw [afterLast, List.reverse_append, List.takeWhile_append_of_pos passed, List.reverse_append,
    List.reverse_reverse]
  rfl

theorem afterLast_of_not_mem {separator : Char} (absent : separator ∉ text) :
    afterLast separator text = text := by
  have whole : afterLast separator ([] ++ text) = afterLast separator [] ++ text :=
    afterLast_append_of_not_mem absent
  exact whole

/-- What stands between a host and the end of the authority. -/
def behindHost (rest : List Char) : List Char := rest.takeWhile fun c => !endsAuthority c

theorem behindHost_port (isPort : IsOptionalPort port) :
    behindHost (port ++ '/' :: rest) = port := by
  have inAuthority : ∀ c ∈ port, endsAuthority c = false := by
    rcases isPort with rfl | ⟨number, rfl, _, digits⟩
    · simp
    · intro c member
      rcases List.mem_cons.mp member with rfl | inNumber
      · rfl
      · have isDigit := digits c inNumber
        by_contra ends
        rw [Bool.not_eq_false, endsAuthority, Bool.or_eq_true, Bool.or_eq_true,
          decide_eq_true_eq, decide_eq_true_eq, decide_eq_true_eq] at ends
        rcases ends with (rfl | rfl) | rfl
        all_goals cases isDigit
  have passed : ∀ c ∈ port, (!endsAuthority c) = true := by
    intro c member
    rw [inAuthority c member]
    rfl
  rw [behindHost, List.takeWhile_append_of_pos passed]
  simp [endsAuthority]

/-- A host is all that stands in front of a port number. -/
theorem hostOfAuthority_append (inHost : ∀ c ∈ host, endsHost c = false)
    (isPort : IsOptionalPort (behindHost rest)) :
    hostOfAuthority (host ++ rest) = host := by
  have authority : (host ++ rest).takeWhile (fun c => !endsAuthority c) =
      host ++ behindHost rest := by
    apply List.takeWhile_append_of_pos
    intro c member
    rw [endsAuthority_of_not_endsHost (inHost c member)]
    rfl
  have noUser : '@' ∉ host ++ behindHost rest := by
    intro user
    rcases List.mem_append.mp user with atHost | behind
    · exact (ne_of_not_endsHost (inHost '@' atHost)).1 rfl
    · rcases isPort with nothing | ⟨number, colon, _, digits⟩
      · rw [nothing] at behind
        cases behind
      · rw [colon] at behind
        rcases List.mem_cons.mp behind with isColon | inNumber
        · cases isColon
        · cases digits '@' inNumber
  have noColon : ∀ c ∈ host, decide (c ≠ ':') = true := by
    intro c member
    simp only [decide_eq_true_eq]
    exact (ne_of_not_endsHost (inHost c member)).2
  rw [hostOfAuthority, authority, afterLast_of_not_mem noUser,
    List.takeWhile_append_of_pos noColon]
  rcases isPort with nothing | ⟨number, colon, _⟩
  · rw [nothing]
    simp
  · rw [colon]
    simp

/-- The host of a URL is what stands in front of an optional port number, if no character of it ends
a host. -/
theorem host?_of_afterScheme {url : String} (schemed : afterScheme url.toList = some (host ++ rest))
    (inHost : ∀ c ∈ host, endsHost c = false) (filled : host ≠ [])
    (isPort : IsOptionalPort (behindHost rest)) :
    host? url = some (String.ofList host) := by
  have kept : (some host).filter (fun host => !host.isEmpty) = some host := by
    rw [Option.filter_some, if_pos (by simpa using filled)]
  rw [host?, hostChars?, schemed, Option.map_some, hostOfAuthority_append inHost isPort, kept]
  rfl

end ContentBlocking.Url
