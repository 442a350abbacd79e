import Mathlib.Data.Bool.AllAny
import ContentBlocking.Proofs.Filter.AllowlistLanguage
import ContentBlocking.Proofs.Filter.DomainLanguage

/-!
# The hosts of the URLs that filters match

A filter reads a URL in its own way, without looking for a host. What its start takes in front of
the domain is made of whole labels, so the host is on the domain if it ends where the domain ends.
It does so in front of a slash or of a port number with a colon. A filter for a domain also accepts
digits there, and a filter for an entry without a slash accepts anything.
-/

namespace ContentBlocking

open Text Pattern

namespace Url

variable {host domain name rest subdomain text : List Char}

/-! ## Domains of hosts -/

/-- A host is on a domain if it is the domain or ends with it behind a dot, where case does not
matter. -/
def IsOn (host domain : List Char) : Prop :=
  SameText host domain ∨ ('.' :: domain).map fold <:+ host.map fold

instance (host domain : List Char) : Decidable (IsOn host domain) :=
  inferInstanceAs (Decidable (_ ∨ _))

theorem isOn_append (labels : subdomain = [] ∨ ∃ front, subdomain = front ++ ['.'])
    (same : SameText name domain) : IsOn (subdomain ++ name) domain := by
  rcases labels with rfl | ⟨front, rfl⟩
  · left
    exact same
  · right
    refine ⟨front.map fold, ?_⟩
    rw [List.append_assoc, List.map_append, List.singleton_append, List.map_cons, List.map_cons, same]

/-- A host on a domain with a dot has the last label of the domain, but for case. -/
theorem afterLast_of_isOn (isOn : IsOn host domain) (dotted : '.' ∈ domain) :
    afterLast '.' (host.map fold) = afterLast '.' (domain.map fold) := by
  have ends : ∃ front, host.map fold = front ++ domain.map fold := by
    rcases isOn with same | ⟨front, suffix⟩
    · exact ⟨[], same⟩
    · refine ⟨front ++ [fold '.'], ?_⟩
      rw [← suffix, List.map_cons, List.append_assoc]
      rfl
  obtain ⟨front, whole⟩ := ends
  have present : '.' ∈ domain.map fold := List.mem_map.mpr ⟨'.', dotted, by decide⟩
  rw [whole, afterLast_append_of_mem present]

/-- Digits behind a host on a domain take it off the domain. -/
theorem isOn_append_digits_iff {digits : List Char} (isOn : IsOn name domain)
    (dotted : '.' ∈ domain) (areDigits : ∀ c ∈ digits, c.isDigit = true) :
    IsOn (name ++ digits) domain ↔ digits = [] := by
  constructor
  · -- The digits would lengthen the last label, which is that of the domain with them and without.
    intro stillOn
    have noDot : '.' ∉ digits.map fold := by
      intro dot
      obtain ⟨c, isDigit, folded⟩ := List.mem_map.mp dot
      have sameDot := eq_of_fold_eq (by decide) folded
      rw [sameDot] at isDigit
      cases areDigits '.' isDigit
    have last := afterLast_of_isOn stillOn dotted
    rw [← afterLast_of_isOn isOn dotted, List.map_append,
      afterLast_append_of_not_mem noDot] at last
    exact List.map_eq_nil_iff.mp (List.append_right_eq_self.mp last)
  · rintro rfl
    rwa [List.append_nil]

/-! ## Characters of hosts -/

theorem endsHost_eq_false {property : Char → Bool} {c : Char}
    (none : (['/', '?', '#', '@', ':'].all fun mark => !property mark) = true)
    (holds : property c = true) : endsHost c = false := by
  refine decide_eq_false ?_
  intro mark
  have fails := List.all_eq_true.mp none c mark
  rw [holds] at fails
  cases fails

/-- What a domain matches holds no character that ends a host. -/
theorem endsHost_of_sameText (plain : ∀ c ∈ domain, isDomainChar c = true)
    (same : SameText name domain) : ∀ c ∈ name, endsHost c = false := by
  intro c member
  refine decide_eq_false ?_
  intro mark
  have low : ∀ mark ∈ ['/', '?', '#', '@', ':'], mark.toNat < 0x61 ∧ fold mark = mark ∧
      isDomainChar mark = false :=
    List.all_iff_forall_prop.mp (by decide)
  obtain ⟨isLow, unchanged, notInDomain⟩ := low c mark
  have inDomain := plain c (same.mem_of_mem isLow unchanged member)
  rw [notInDomain] at inDomain
  cases inDomain

/-! ## Starts -/

theorem IsScheme.colon_not_mem {scheme : String} (isScheme : IsScheme scheme text)
    (noColon : ':' ∉ scheme.toList ++ ['s']) : ':' ∉ text := by
  intro colon
  rcases isScheme with rfl | same | same
  · cases colon
  · have found := same.mem_of_mem (by decide) (by decide) colon
    exact noColon (List.mem_append_left _ found)
  · exact noColon (same.mem_of_mem (by decide) (by decide) colon)

/-- Behind the scheme a start has labels only, each with its dot. -/
theorem IsStart.exists_subdomain {start : List Char} (isStart : IsStart start) :
    ∃ subdomain, (∀ rest, afterScheme (start ++ rest) = some (subdomain ++ rest)) ∧
      (∀ c ∈ subdomain, endsHost c = false) ∧
        (subdomain = [] ∨ ∃ front, subdomain = front ++ ['.']) := by
  obtain ⟨web, socket, labels, rfl, isWeb, isSocket, areLabels⟩ := isStart
  refine ⟨labels.flatMap (· ++ ['.']), ?_, ?_, ?_⟩
  · intro rest
    have noColon : ':' ∉ web ++ socket := by
      rw [List.mem_append, not_or]
      exact ⟨isWeb.colon_not_mem (by decide), isSocket.colon_not_mem (by decide)⟩
    rw [List.append_assoc _ _ rest]
    exact afterScheme_append noColon
  · intro c member
    obtain ⟨label, isMember, inLabel⟩ := List.mem_flatMap.mp member
    rcases List.mem_append.mp inLabel with inside | dot
    · exact endsHost_eq_false (by decide) ((areLabels label isMember).2 c inside)
    · rw [List.mem_singleton.mp dot]
      rfl
  · rcases List.eq_nil_or_concat labels with rfl | ⟨others, last, rfl⟩
    · left
      rfl
    · right
      refine ⟨others.flatMap (· ++ ['.']) ++ last, ?_⟩
      rw [List.concat_eq_append, List.flatMap_append, List.flatMap_singleton, List.append_assoc]

/-- What a domain matches behind the start of a filter is the end of a host on that domain. -/
theorem IsStart.exists_host {url start : List Char} (isStart : IsStart start)
    (whole : url = start ++ (name ++ rest)) (same : SameText name domain)
    (plain : ∀ c ∈ domain, isDomainChar c = true) (dotted : '.' ∈ domain) :
    ∃ host, afterScheme url = some (host ++ rest) ∧ IsOn host domain ∧
      (∀ c ∈ host, endsHost c = false) ∧ host ≠ [] := by
  obtain ⟨subdomain, schemed, inSubdomain, labels⟩ := isStart.exists_subdomain
  have dot : '.' ∈ name := same.symm.mem_of_mem (by decide) (by decide) dotted
  refine ⟨subdomain ++ name, ?_, isOn_append labels same, ?_, ?_⟩
  · rw [whole, schemed, List.append_assoc]
  · intro c member
    rcases List.mem_append.mp member with inLabels | inName
    · exact inSubdomain c inLabels
    · exact endsHost_of_sameText plain same c inName
  · exact List.append_ne_nil_of_right_ne_nil subdomain (List.ne_nil_of_mem dot)

end Url

namespace Filter

/-! ## Filters for domains -/

/-- The host of a URL that a filter for a domain matches is on the domain, unless digits stand
directly behind the domain: these belong to the host, and with any of them it is on the domain no
more. -/
theorem host?_of_matches_ofDomain {domain url : String}
    (plain : ∀ c ∈ domain.toList, Url.isDomainChar c = true) (dotted : '.' ∈ domain.toList)
    (matched : Matches (ofDomain domain) url) :
    ∃ name digits, Url.host? url = some (String.ofList (name ++ digits)) ∧
      Url.IsOn name domain.toList ∧ (∀ c ∈ digits, c.isDigit = true) ∧
        (Url.IsOn (name ++ digits) domain.toList ↔ digits = []) := by
  have literal := isLiteral_of_areDomainChars plain
  obtain ⟨start, name, port, rest, whole, isStart, same, loosePort⟩ :=
    (matches_ofDomain_iff_exists literal matched.isSome).mp matched
  -- A number without a colon belongs to the host, and a port number with a colon does not.
  have parts : ∃ digits optional, port = digits ++ optional ∧
      (∀ c ∈ digits, c.isDigit = true) ∧ Url.IsOptionalPort optional := by
    rcases loosePort with isPort | ⟨_, areDigits⟩
    · exact ⟨[], port, rfl, by simp, isPort⟩
    · exact ⟨port, [], (List.append_nil port).symm, areDigits, Or.inl rfl⟩
  obtain ⟨digits, optional, rfl, areDigits, isPort⟩ := parts
  have inOrder : url.toList = start ++ (name ++ (digits ++ (optional ++ '/' :: rest))) := by
    rw [whole]
    simp only [List.append_assoc]
  obtain ⟨host, schemed, isOn, inHost, filled⟩ := isStart.exists_host inOrder same plain dotted
  have inBoth : ∀ c ∈ host ++ digits, Url.endsHost c = false := by
    intro c member
    rcases List.mem_append.mp member with atHost | isDigit
    · exact inHost c atHost
    · exact Url.endsHost_eq_false (by decide) (areDigits c isDigit)
  rw [← List.append_assoc host] at schemed
  refine ⟨host, digits, ?_, isOn, areDigits, Url.isOn_append_digits_iff isOn dotted areDigits⟩
  apply Url.host?_of_afterScheme schemed inBoth
  · exact List.append_ne_nil_of_left_ne_nil filled digits
  · rwa [Url.behindHost_port isPort]

theorem host?_of_matches_ofDomain_ad :
    (∀ c ∈ "ad.com".toList, Url.isDomainChar c = true) ∧ '.' ∈ "ad.com".toList ∧
      Matches (ofDomain "ad.com") "http://x.ad.com/" ∧
        ∃ name digits, Url.host? "http://x.ad.com/" = some (String.ofList (name ++ digits)) ∧
          Url.IsOn name "ad.com".toList ∧ (∀ c ∈ digits, c.isDigit = true) ∧
            (Url.IsOn (name ++ digits) "ad.com".toList ↔ digits = []) := by
  have plain : ∀ c ∈ "ad.com".toList, Url.isDomainChar c = true :=
    List.all_eq_true.mp (by decide)
  have dotted : '.' ∈ "ad.com".toList := by
    decide
  have isStart : Url.IsStart "http://x.".toList := by
    refine ⟨"http".toList, [], ["x".toList], rfl, Or.inr (Or.inl rfl), Or.inl rfl, ?_⟩
    intro label member
    rw [List.mem_singleton.mp member]
    decide
  have matched : Matches (ofDomain "ad.com") "http://x.ad.com/" := by
    rw [matches_ofDomain_iff_of_length_le (by decide) (by decide)]
    exact ⟨"http://x.".toList, "ad.com".toList, [], [], rfl, isStart, rfl, Or.inl (Or.inl rfl)⟩
  exact ⟨plain, dotted, matched, host?_of_matches_ofDomain plain dotted matched⟩

/-- Digits behind the domain are taken for a port number by the filter and for a part of the host by
everyone else. -/
theorem host?_of_digits_not_isOn :
    (∀ c ∈ "ad.com".toList, Url.isDomainChar c = true) ∧
      Matches (ofDomain "ad.com") "http://ad.com1/" ∧
        Url.host? "http://ad.com1/" = some "ad.com1" ∧
          ¬ Url.IsOn "ad.com1".toList "ad.com".toList := by
  have isPort : Url.IsLoosePort ['1'] := Or.inr (by decide)
  refine ⟨List.all_eq_true.mp (by decide), ?_, by decide, by decide⟩
  rw [matches_ofDomain_iff_of_length_le (by decide) (by decide)]
  exact ⟨"http://".toList, "ad.com".toList, ['1'], [], rfl, Url.isStart_http, rfl, isPort⟩

/-! ## Filters for entries of an allowlist -/

/-- The authority of a URL that a filter for an entry matches begins with a host on the domain of
the entry. This is the host of the URL if the entry has a slash, or if nothing but a port number
follows in the authority. -/
theorem host?_of_matches_ofAllowlistEntry {entry url : String}
    (unmarked : ∀ c ∈ entry.toList, isUnmarked c = true)
    (plain : ∀ c ∈ entry.toList.takeWhile (fun c => c ≠ '/'), Url.isDomainChar c = true)
    (dotted : '.' ∈ entry.toList.takeWhile (fun c => c ≠ '/'))
    (matched : Matches (ofAllowlistEntry entry) url) :
    ∃ name rest, Url.afterScheme url.toList = some (name ++ rest) ∧
      Url.IsOn name (entry.toList.takeWhile fun c => c ≠ '/') ∧
        ('/' ∈ entry.toList → Url.host? url = some (String.ofList name)) ∧
          (Url.IsOptionalPort (Url.behindHost rest) →
            Url.host? url = some (String.ofList name)) := by
  have literal := isLiteral_of_areUnmarked unmarked
  have accepted := matched.isSome
  by_cases slash : '/' ∈ entry.toList
  · obtain ⟨domain, path, split, noSlash⟩ := List.eq_append_cons_of_mem slash
    rw [split, takeWhile_host noSlash] at plain dotted ⊢
    obtain ⟨start, name, port, tail, rest, whole, isStart, same, isPort, _⟩ :=
      (matches_ofAllowlistEntry_iff_of_slash literal accepted split noSlash).mp matched
    have inOrder : url.toList = start ++ (name ++ (port ++ '/' :: (tail ++ rest))) := by
      rw [whole]
      simp
    obtain ⟨host, schemed, isOn, inHost, filled⟩ := isStart.exists_host inOrder same plain dotted
    have closed : Url.host? url = some (String.ofList host) := by
      apply Url.host?_of_afterScheme schemed inHost filled
      rwa [Url.behindHost_port isPort]
    exact ⟨host, port ++ '/' :: (tail ++ rest), schemed, isOn, fun _ => closed, fun _ => closed⟩
  · -- Without a slash nothing is known about what follows the name.
    have everything : entry.toList.takeWhile (fun c => c ≠ '/') = entry.toList :=
      List.takeWhile_eq_self_iff.mpr (Url.all_ne_of_not_mem slash)
    rw [everything] at plain dotted ⊢
    obtain ⟨start, name, rest, whole, isStart, same⟩ :=
      (matches_ofAllowlistEntry_iff_of_not_mem literal accepted slash).mp matched
    rw [List.append_assoc] at whole
    obtain ⟨host, schemed, isOn, inHost, filled⟩ := isStart.exists_host whole same plain dotted
    refine ⟨host, rest, schemed, isOn, fun present => absurd present slash, ?_⟩
    exact Url.host?_of_afterScheme schemed inHost filled

theorem host?_of_matches_ofAllowlistEntry_shop :
    (∀ c ∈ "shop.com/a".toList, isUnmarked c = true) ∧
      Matches (ofAllowlistEntry "shop.com/a") "http://shop.com:80/a" ∧
        Url.host? "http://shop.com:80/a" = some "shop.com" ∧
          ∃ name rest, Url.afterScheme "http://shop.com:80/a".toList = some (name ++ rest) ∧
            Url.IsOn name "shop.com".toList ∧
              Url.host? "http://shop.com:80/a" = some (String.ofList name) := by
  have unmarked : ∀ c ∈ "shop.com/a".toList, isUnmarked c = true :=
    List.all_eq_true.mp (by decide)
  have plain : ∀ c ∈ "shop.com/a".toList.takeWhile (fun c => c ≠ '/'), Url.isDomainChar c = true :=
    List.all_eq_true.mp (by decide)
  have literal := isLiteral_of_areUnmarked unmarked
  have accepted := isSome_ofAllowlistEntry_of_length_le literal (by decide)
  have isPort : Url.IsOptionalPort ":80".toList :=
    Or.inr ⟨"80".toList, rfl, by decide⟩
  have matched : Matches (ofAllowlistEntry "shop.com/a") "http://shop.com:80/a" := by
    have split : "shop.com/a".toList = "shop.com".toList ++ '/' :: ['a'] := rfl
    rw [matches_ofAllowlistEntry_iff_of_slash literal accepted split (by decide)]
    exact ⟨"http://".toList, "shop.com".toList, ":80".toList, ['a'], [], rfl, Url.isStart_http,
      rfl, isPort, rfl⟩
  obtain ⟨name, rest, schemed, isOn, closed, _⟩ :=
    host?_of_matches_ofAllowlistEntry unmarked plain (by decide) matched
  exact ⟨unmarked, matched, by decide, name, rest, schemed, isOn, closed (by decide)⟩

/-- An entry without a slash is the beginning of hosts that have nothing to do with it. -/
theorem host?_of_longer_not_isOn :
    (∀ c ∈ "ad.com".toList, isUnmarked c = true ∧ Url.isDomainChar c = true) ∧
      Matches (ofAllowlistEntry "ad.com") "http://ad.com.evil.org/" ∧
        Url.host? "http://ad.com.evil.org/" = some "ad.com.evil.org" ∧
          ¬ Url.IsOn "ad.com.evil.org".toList "ad.com".toList := by
  have literal : "ad.com".toList.all isLiteral = true := by
    decide
  have accepted := isSome_ofAllowlistEntry_of_length_le literal (by decide)
  refine ⟨List.all_iff_forall_prop.mp (by decide), ?_, by decide, by decide⟩
  rw [matches_ofAllowlistEntry_iff_of_not_mem literal accepted (by decide)]
  exact ⟨"http://".toList, "ad.com".toList, ".evil.org/".toList, rfl, Url.isStart_http, rfl⟩

end Filter

end ContentBlocking
