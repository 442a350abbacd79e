/-!
# Hosts of URLs

A URL is a text; the only part of its grammar that matters here is the host, which lies between
the first `://` and the end of the authority, without user information and port number. A page
belongs to every domain that is its host or ends it at a label boundary and has at least two labels.
-/

namespace ContentBlocking.Url

/-- What follows the first `://` of a text. -/
def afterScheme : List Char → Option (List Char)
  | ':' :: '/' :: '/' :: rest => some rest
  | _ :: rest => afterScheme rest
  | [] => none

def endsAuthority (c : Char) : Bool := c = '/' || c = '?' || c = '#'

/-- What follows the last occurrence of a character, or the whole text if there is none. -/
def afterLast (separator : Char) (text : List Char) : List Char :=
  (text.reverse.takeWhile (fun c => c ≠ separator)).reverse

/-- The host of a text that starts with an authority; it may be empty. -/
def hostOfAuthority (text : List Char) : List Char :=
  (afterLast '@' (text.takeWhile (fun c => !endsAuthority c))).takeWhile (fun c => c ≠ ':')

/-- The host of a URL. A URL without `://` and a URL whose host is empty have none. -/
def hostChars? (url : List Char) : Option (List Char) :=
  ((afterScheme url).map hostOfAuthority).filter (fun host => !host.isEmpty)

def labels (domain : List Char) : List (List Char) := domain.splitOn '.'

def ofLabels (parts : List (List Char)) : List Char := ['.'].intercalate parts

/-- The domain that remains when empty labels and the first other label are left out. -/
def dropLabel (domain : List Char) : List Char :=
  ofLabels (((labels domain).filter (fun label => !label.isEmpty)).drop 1)

/-- The domains with at least two labels that end a list of labels, longest first. -/
def domainsOfLabels : List (List Char) → List (List Char)
  | [] | [_] => []
  | first :: second :: rest =>
      ofLabels (first :: second :: rest) :: domainsOfLabels (second :: rest)

def host? (url : String) : Option String := (hostChars? url.toList).map String.ofList

def domainsOfHost (host : String) : List String :=
  (domainsOfLabels (labels host.toList)).map String.ofList

/-- The domains to which the host of a URL belongs, longest first. There are none if the URL has no
host or its host has a single label. -/
def pageDomains? (url : String) : Option (List String) :=
  ((host? url).map domainsOfHost).filter (fun domains => !domains.isEmpty)

/-! ## Dropping a label shortens a domain -/

def labelChars (parts : List (List Char)) : Nat := parts.flatten.length

theorem labelChars_labels (domain : List Char) :
    labelChars (labels domain) + (labels domain).length = domain.length + 1 := by
  unfold labels
  induction domain with
  | nil => simp [labelChars]
  | cons c rest ih =>
      rw [List.splitOn_cons_eq_if_modifyHead]
      split
      · simp only [labelChars, List.flatten_cons, List.length_append, List.length_cons,
          List.length_nil]
          at ih ⊢
        omega
      · cases pieces : rest.splitOn '.' with
        | nil => exact absurd pieces (List.splitOn_ne_nil _ _)
        | cons first others =>
            rw [pieces] at ih
            simp only [labelChars, List.flatten_cons, List.length_append, List.length_cons,
              List.modifyHead_cons] at ih ⊢
            omega

theorem length_ofLabels (first : List Char) (rest : List (List Char)) :
    (ofLabels (first :: rest)).length = labelChars (first :: rest) + rest.length := by
  unfold ofLabels
  induction rest generalizing first with
  | nil => simp [labelChars, List.intercalate]
  | cons second rest ih =>
      have shorter := ih second
      simp only [labelChars, List.intercalate, List.intersperse_cons_cons, List.flatten_cons,
        List.length_append, List.length_cons, List.length_nil]
        at shorter ⊢
      omega

theorem labelChars_filter (parts : List (List Char)) :
    labelChars (parts.filter (fun label => !label.isEmpty)) = labelChars parts := by
  induction parts with
  | nil => rfl
  | cons first rest ih =>
      cases first with
      | nil => simpa [labelChars] using ih
      | cons c tail =>
          simp only [labelChars, List.filter_cons, List.isEmpty_cons, Bool.not_false, if_true,
            List.flatten_cons, List.length_append] at ih ⊢
          omega

theorem length_dropLabel_lt {domain : List Char} (dotted : '.' ∈ domain) :
    (dropLabel domain).length < domain.length := by
  have total := labelChars_labels domain
  have kept := labelChars_filter (labels domain)
  have fewer := List.length_filter_le (fun label => !label.isEmpty) (labels domain)
  have positive : 0 < domain.length := List.length_pos_of_mem dotted
  unfold dropLabel
  cases nonempty : (labels domain).filter (fun label => !label.isEmpty) with
  | nil => simpa [ofLabels, List.intercalate] using positive
  | cons first rest =>
      rw [nonempty] at kept fewer
      cases rest with
      | nil => simpa [ofLabels, List.intercalate] using positive
      | cons second rest =>
          have member : first ∈ (labels domain).filter (fun label => !label.isEmpty) := by
            simp [nonempty]
          have filled : 0 < first.length := by
            have := (List.mem_filter.1 member).2
            cases first with
            | nil => simp at this
            | cons c tail => exact Nat.succ_pos _
          rw [List.drop_one, List.tail_cons, length_ofLabels]
          simp only [labelChars, List.flatten_cons, List.length_append, List.length_cons] at *
          omega

end ContentBlocking.Url
