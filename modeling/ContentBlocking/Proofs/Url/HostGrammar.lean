import ContentBlocking.Proofs.Url.Authority
import ContentBlocking.Proofs.Url.PageDomains

/-!
# The grammar of hosts

The host of a URL is found by cutting the URL at marks: at the first `://`, at the first mark behind
it that ends the authority, at the last `@` in front of that and at the first colon of what is left.
Each URL can be put together again from the parts, and in only one way, so the host is what stands
at its place in the grammar of URLs.
-/

namespace ContentBlocking.Url

/-! ## Parts -/

/-- A URL in parts. The user information and the port may be absent, and the tail is what follows
the authority. -/
structure Parts where
  scheme : List Char
  user : Option (List Char)
  host : List Char
  port : Option (List Char)
  tail : List Char

namespace Parts

def userText (parts : Parts) : List Char := parts.user.elim [] (· ++ ['@'])

def portText (parts : Parts) : List Char := parts.port.elim [] (':' :: ·)

def authority (parts : Parts) : List Char := parts.userText ++ (parts.host ++ parts.portText)

def text (parts : Parts) : List Char :=
  parts.scheme ++ "://".toList ++ (parts.authority ++ parts.tail)

/-- No part contains a mark at which the URL is cut elsewhere. -/
structure IsWellFormed (parts : Parts) : Prop where
  scheme : ¬ "://".toList <:+: parts.scheme
  user : ∀ user ∈ parts.user, ∀ c ∈ user, c ∉ ['/', '?', '#']
  host : ∀ c ∈ parts.host, c ∉ ['/', '?', '#', '@', ':']
  filled : parts.host ≠ []
  port : ∀ port ∈ parts.port, ∀ c ∈ port, c ∉ ['/', '?', '#', '@']
  tail : ∀ c ∈ parts.tail.head?, c ∈ ['/', '?', '#']

variable {parts : Parts} {c : Char}

theorem mem_userText_iff : c ∈ parts.userText ↔ ∃ user ∈ parts.user, c ∈ user ∨ c = '@' := by
  rw [userText]
  cases parts.user <;> simp

theorem mem_portText_iff : c ∈ parts.portText ↔ ∃ port ∈ parts.port, c = ':' ∨ c ∈ port := by
  rw [portText]
  cases parts.port <;> simp

end Parts

theorem endsAuthority_iff {c : Char} : endsAuthority c = true ↔ c ∈ ['/', '?', '#'] := by
  simp [endsAuthority, or_assoc]

/-! ## Schemes -/

variable {front rest text host : List Char} {separator : Char}

/-- What follows the scheme stands behind the first `://`. -/
theorem exists_of_afterScheme {url : List Char} (found : afterScheme url = some rest) :
    ∃ scheme, url = scheme ++ "://".toList ++ rest ∧ ¬ "://".toList <:+: scheme := by
  fun_induction afterScheme url with
  | case1 rest =>
      cases found
      exact ⟨[], rfl, by simp⟩
  | case2 c url notMarked inductionHypothesis =>
      obtain ⟨scheme, split, noMark⟩ := inductionHypothesis found
      refine ⟨c :: scheme, by rw [split]; rfl, ?_⟩
      intro inside
      cases List.infix_cons_iff.mp inside with
      | inl atStart =>
          obtain ⟨more, marked⟩ := atStart
          cases marked
          exact notMarked (more ++ "://".toList ++ rest) rfl split
      | inr later => exact noMark later
  | case3 => cases found

/-! ## Last marks -/

theorem afterLast_mark (absent : separator ∉ rest) :
    afterLast separator (front ++ separator :: rest) = rest := by
  have marked : separator ∈ separator :: rest := List.mem_cons_self
  have behind : afterLast separator ([separator] ++ rest) = afterLast separator [separator] ++ rest :=
    afterLast_append_of_not_mem absent
  rw [afterLast_append_of_mem marked]
  rw [List.singleton_append] at behind
  rw [behind]
  simp [afterLast]

/-- The last mark cuts a text that has one. -/
theorem exists_last_mark (present : separator ∈ text) :
    ∃ front rest, text = front ++ separator :: rest ∧ separator ∉ rest := by
  obtain ⟨rest, front, split, absent⟩ := List.eq_append_cons_of_mem (List.mem_reverse.mpr present)
  refine ⟨front.reverse, rest.reverse, ?_, ?_⟩
  · rw [← List.reverse_reverse text, split, List.reverse_append, List.reverse_cons,
      List.append_assoc]
    rfl
  · rwa [List.mem_reverse]

/-! ## Authorities -/

section WellFormed

variable {parts : Parts} (wellFormed : parts.IsWellFormed)

include wellFormed

theorem Parts.not_ends_of_mem_authority : ∀ c ∈ parts.authority, c ∉ ['/', '?', '#'] := by
  intro c member ends
  simp only [authority, List.mem_append, mem_userText_iff, mem_portText_iff] at member
  rcases member with ⟨user, given, inside | mark⟩ | inHost | ⟨port, given, mark | inside⟩
  · exact wellFormed.user user given c inside ends
  · rw [mark] at ends
    exact absurd ends (by decide)
  · exact wellFormed.host c inHost (List.mem_append_left ['@', ':'] ends)
  · rw [mark] at ends
    exact absurd ends (by decide)
  · exact wellFormed.port port given c inside (List.mem_append_left ['@'] ends)

theorem Parts.takeWhile_authority :
    (parts.authority ++ parts.tail).takeWhile (fun c => !endsAuthority c) = parts.authority := by
  have passed : ∀ c ∈ parts.authority, (!endsAuthority c) = true := by
    intro c member
    have goesOn := not_ends_of_mem_authority wellFormed c member
    rw [← endsAuthority_iff, Bool.not_eq_true] at goesOn
    rw [goesOn]
    rfl
  have stopped : parts.tail.takeWhile (fun c => !endsAuthority c) = [] := by
    cases given : parts.tail with
    | nil => rfl
    | cons c more =>
        have ends := wellFormed.tail c (by rw [given]; rfl)
        rw [← endsAuthority_iff] at ends
        simp [ends]
  rw [List.takeWhile_append_of_pos passed, stopped, List.append_nil]

theorem Parts.afterLast_authority :
    afterLast '@' parts.authority = parts.host ++ parts.portText := by
  have absent : '@' ∉ parts.host ++ parts.portText := by
    intro member
    rw [List.mem_append, mem_portText_iff] at member
    rcases member with inHost | ⟨port, given, mark | inside⟩
    · exact wellFormed.host '@' inHost (by decide)
    · exact absurd mark (by decide)
    · exact wellFormed.port port given '@' inside (by decide)
  rw [authority, userText]
  cases parts.user with
  | none => exact afterLast_of_not_mem absent
  | some user =>
      rw [Option.elim_some, List.append_assoc]
      exact afterLast_mark absent

/-- The authority of a URL that is well formed is cut down to its host. -/
theorem Parts.hostOfAuthority_eq :
    hostOfAuthority (parts.authority ++ parts.tail) = parts.host := by
  have noColon : ':' ∉ parts.host := fun member => wellFormed.host ':' member (by decide)
  have stopped : parts.portText.takeWhile (fun c => decide (c ≠ ':')) = [] := by
    rw [portText]
    cases parts.port <;> simp
  rw [hostOfAuthority, takeWhile_authority wellFormed, afterLast_authority wellFormed,
    List.takeWhile_append_of_pos (all_ne_of_not_mem noColon), stopped, List.append_nil]

end WellFormed

/-! ## Cutting -/

theorem exists_user (text : List Char) :
    ∃ user : Option (List Char), text = user.elim [] (· ++ ['@']) ++ afterLast '@' text ∧
      '@' ∉ afterLast '@' text := by
  by_cases present : '@' ∈ text
  · obtain ⟨user, rest, split, absent⟩ := exists_last_mark present
    have behind : afterLast '@' text = rest := by
      rw [split]
      exact afterLast_mark absent
    refine ⟨some user, ?_, ?_⟩
    · rw [behind, split]
      simp
    · rwa [behind]
  · have whole := afterLast_of_not_mem present
    refine ⟨none, ?_, ?_⟩
    · exact whole.symm
    · rwa [whole]

theorem exists_port (text : List Char) :
    ∃ port : Option (List Char),
      text = text.takeWhile (fun c => c ≠ ':') ++ port.elim [] (':' :: ·) := by
  by_cases colon : ':' ∈ text
  · obtain ⟨host, port, split, noColon⟩ := List.eq_append_cons_of_mem colon
    refine ⟨some port, ?_⟩
    rw [split, List.takeWhile_append_of_pos (all_ne_of_not_mem noColon)]
    simp
  · refine ⟨none, ?_⟩
    rw [List.takeWhile_eq_self_iff.mpr (all_ne_of_not_mem colon)]
    simp

/-- An authority that is cut at its marks leaves well-formed parts if there is a host. -/
theorem Parts.isWellFormed_of_cut {parts : Parts} (noMark : ¬ "://".toList <:+: parts.scheme)
    (goesOn : ∀ c ∈ parts.authority, c ∉ ['/', '?', '#'])
    (noUser : '@' ∉ parts.host ++ parts.portText) (noColon : ':' ∉ parts.host)
    (filled : parts.host ≠ []) (ended : ∀ c ∈ parts.tail.head?, c ∈ ['/', '?', '#']) :
    parts.IsWellFormed := by
  rw [authority, List.forall_mem_append, List.forall_mem_append] at goesOn
  rw [List.mem_append, not_or] at noUser
  constructor
  · exact noMark
  · intro user given c inside
    exact goesOn.1 c (mem_userText_iff.mpr ⟨user, given, Or.inl inside⟩)
  · intro c member mark
    have marks : c ∈ ['/', '?', '#'] ∨ c = '@' ∨ c = ':' := by
      simpa [or_assoc] using mark
    rcases marks with ends | at_ | colon
    · exact goesOn.2.1 c member ends
    · exact noUser.1 (at_ ▸ member)
    · exact noColon (colon ▸ member)
  · exact filled
  · intro port given c inside mark
    have member := mem_portText_iff.mpr ⟨port, given, Or.inr inside⟩
    have marks : c ∈ ['/', '?', '#'] ∨ c = '@' := by
      simpa [or_assoc] using mark
    cases marks with
    | inl ends => exact goesOn.2.2 c member ends
    | inr at_ => exact noUser.2 (at_ ▸ member)
  · exact ended

/-- What stands behind the scheme can be cut into parts if there is a host. -/
theorem exists_parts {scheme rest : List Char} (noMark : ¬ "://".toList <:+: scheme)
    (filled : hostOfAuthority rest ≠ []) :
    ∃ parts : Parts, parts.IsWellFormed ∧ parts.text = scheme ++ "://".toList ++ rest ∧
      parts.host = hostOfAuthority rest := by
  obtain ⟨user, userCut, noUser⟩ := exists_user (rest.takeWhile fun c => !endsAuthority c)
  obtain ⟨port, portCut⟩ := exists_port (afterLast '@' (rest.takeWhile fun c => !endsAuthority c))
  rw [← hostOfAuthority] at portCut
  rw [portCut] at userCut noUser
  refine ⟨⟨scheme, user, hostOfAuthority rest, port, rest.dropWhile fun c => !endsAuthority c⟩,
    Parts.isWellFormed_of_cut noMark ?_ noUser ?_ filled ?_, ?_, rfl⟩
  · intro c member ends
    have inAuthority : c ∈ rest.takeWhile fun c => !endsAuthority c := by
      rwa [userCut]
    have goesOn := List.mem_takeWhile_imp inAuthority
    rw [endsAuthority_iff.mpr ends] at goesOn
    cases goesOn
  · intro member
    have passed := List.mem_takeWhile_imp member
    simp at passed
  · intro c first
    have stopped := List.head?_dropWhile_not (fun c => !endsAuthority c) rest
    rw [Option.mem_def.mp first] at stopped
    exact endsAuthority_iff.mp (by simpa using stopped)
  · rw [Parts.text, Parts.authority, Parts.userText, Parts.portText, ← userCut,
      List.takeWhile_append_dropWhile]

/-! ## Hosts -/

theorem host?_eq_some_iff {url host : String} :
    host? url = some host ↔ ∃ rest, afterScheme url.toList = some rest ∧
      hostOfAuthority rest = host.toList ∧ host.toList ≠ [] := by
  simp only [host?, hostChars?, Option.map_eq_some_iff, Option.filter_eq_some_iff,
    Bool.not_eq_true', List.isEmpty_eq_false_iff]
  constructor
  · rintro ⟨text, ⟨⟨rest, schemed, isHost⟩, filled⟩, same⟩
    rw [← same, String.toList_ofList]
    exact ⟨rest, schemed, isHost, filled⟩
  · rintro ⟨rest, schemed, isHost, filled⟩
    exact ⟨host.toList, ⟨⟨rest, schemed, isHost⟩, filled⟩, String.ofList_toList⟩

/-- A URL has a host exactly if it is put together from well-formed parts with that host. -/
theorem host?_eq_some_iff_exists_parts {url host : String} :
    host? url = some host ↔ ∃ parts : Parts,
      parts.IsWellFormed ∧ parts.text = url.toList ∧ parts.host = host.toList := by
  rw [host?_eq_some_iff]
  constructor
  · rintro ⟨rest, schemed, isHost, filled⟩
    obtain ⟨scheme, split, noMark⟩ := exists_of_afterScheme schemed
    rw [← isHost] at filled
    obtain ⟨parts, wellFormed, text, sameHost⟩ := exists_parts noMark filled
    exact ⟨parts, wellFormed, text.trans split.symm, sameHost.trans isHost⟩
  · rintro ⟨parts, wellFormed, text, isHost⟩
    refine ⟨parts.authority ++ parts.tail, ?_, ?_, ?_⟩
    · rw [← text]
      exact afterScheme_append_of_not_infix wellFormed.scheme
    · rw [Parts.hostOfAuthority_eq wellFormed, isHost]
    · rw [← isHost]
      exact wellFormed.filled

/-- A URL has a host if and only if it consists of well-formed parts with this host. If the host has
a dot, the page belongs to the suffixes with a dot that are the host or begin behind one of its
dots, longest first, and otherwise to no domain. -/
theorem host?_grammar (url host : String) :
    (host? url = some host ↔ ∃ parts : Parts,
        parts.IsWellFormed ∧ parts.text = url.toList ∧ parts.host = host.toList) ∧
      (host? url = some host →
        ('.' ∉ host.toList → pageDomains? url = none) ∧
        ('.' ∈ host.toList → ∃ domains, pageDomains? url = some domains ∧
          (∀ domain, domain ∈ domains ↔ '.' ∈ domain.toList ∧
            (domain = host ∨ '.' :: domain.toList <:+ host.toList)) ∧
          domains.Pairwise fun longer shorter => shorter.length < longer.length)) := by
  refine ⟨host?_eq_some_iff_exists_parts, ?_⟩
  intro found
  have page := pageDomains?_of_host? found
  constructor
  · intro single
    rw [page, if_neg single]
  · intro dotted
    rw [if_pos dotted] at page
    exact ⟨domainsOfHost host, page, fun _ => mem_domainsOfHost_iff, pairwise_domainsOfHost host⟩

/-- The user information has an `@` and a colon, and the tail looks like the beginning of a URL. -/
theorem host?_grammar_cart :
    host? "https://me@home:x@a..shop.com:8443?://b.com@" = some "a..shop.com" ∧
      ∃ domains, pageDomains? "https://me@home:x@a..shop.com:8443?://b.com@" = some domains ∧
        (∀ domain, domain ∈ domains ↔ '.' ∈ domain.toList ∧
          (domain = "a..shop.com" ∨ '.' :: domain.toList <:+ "a..shop.com".toList)) ∧
        domains.Pairwise fun longer shorter => shorter.length < longer.length := by
  have found : host? "https://me@home:x@a..shop.com:8443?://b.com@" = some "a..shop.com" := by
    decide
  have dotted : '.' ∈ "a..shop.com".toList := by
    decide
  obtain ⟨_, page⟩ := host?_grammar "https://me@home:x@a..shop.com:8443?://b.com@" "a..shop.com"
  exact ⟨found, (page found).2 dotted⟩

example : pageDomains? "https://me@home:x@a..shop.com:8443?://b.com@" =
    some ["a..shop.com", ".shop.com", "shop.com"] := by
  decide

end ContentBlocking.Url
