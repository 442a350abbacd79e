import ContentBlocking.Proofs.Trigger.Coverage
import ContentBlocking.Proofs.Url.PageDomains

/-!
# Lists of pages match at label boundaries

An entry of a list of pages is compared with whole domains of the page, so it never matches within a
label, and a text without a dot matches nothing. A list includes exactly the pages that it would not
exempt, also if the page has no host.
-/

namespace ContentBlocking

/-- The domain of an entry, which may stand behind a star, ends the host at a label boundary. -/
def Trigger.EntryEnds (entry host : String) : Prop :=
  ∃ domain, (entry = domain ∨ entry = Filter.wildcard domain) ∧ '.' ∈ domain.toList ∧
    (host = domain ∨ '.' :: domain.toList <:+ host.toList)

/-- The domains of a page are its host and what stands there behind a dot, as long as there is a dot
left. -/
theorem Url.mem_pageDomains_iff {request : Request} {domain : String} :
    domain ∈ request.pageDomains ↔ ∃ host, host? request.page = some host ∧
      '.' ∈ domain.toList ∧ (host = domain ∨ '.' :: domain.toList <:+ host.toList) := by
  rw [Request.pageDomains]
  cases found : host? request.page with
  | none =>
      rw [pageDomains?, found]
      simp
  | some host =>
      rw [getD_pageDomains?_of_host? found, mem_domainsOfHost_iff]
      simp [eq_comm]

/-- A page is listed exactly if the domain of an entry ends its host at a label boundary. -/
theorem Request.isListed_iff_exists_entryEnds {request : Request} {entries : List String} :
    request.IsListed entries ↔ ∃ host, Url.host? request.page = some host ∧
      ∃ entry ∈ entries, Trigger.EntryEnds entry host := by
  simp only [IsListed, Url.mem_pageDomains_iff]
  constructor
  · rintro ⟨domain, ⟨host, found, dotted, ends⟩, entry, member, named⟩
    exact ⟨host, found, entry, member, domain, named, dotted, ends⟩
  · rintro ⟨host, found, entry, member, domain, named, dotted, ends⟩
    exact ⟨domain, ⟨host, found, dotted, ends⟩, entry, member, named⟩

namespace Trigger

/-- A list includes the pages with a host that the domain of some entry ends, and exempts the same
pages. -/
theorem passesIfDomain_iff_exists_entryEnds (entries : List String) (page : String) :
    (passesIfDomain (some entries) (Url.pageDomains? page) = true ↔
        ∃ host, Url.host? page = some host ∧ ∃ entry ∈ entries, EntryEnds entry host) ∧
      passesUnlessDomain (some entries) (Url.pageDomains? page) =
        !passesIfDomain (some entries) (Url.pageDomains? page) := by
  -- Only the page of a request matters to a list of pages.
  have onPage : ∃ request : Request, request.page = page := ⟨⟨"", page, none, none, none⟩, rfl⟩
  obtain ⟨request, rfl⟩ := onPage
  have included : passesIfDomain (some entries) (Url.pageDomains? request.page) = _ :=
    passesIfDomain_some
  have exempted : passesUnlessDomain (some entries) (Url.pageDomains? request.page) = _ :=
    passesUnlessDomain_some
  constructor
  · rw [included, any_listed_iff]
    exact Request.isListed_iff_exists_entryEnds
  · rw [included, exempted]

example : passesIfDomain (some ["*site.com", "com", "*.com"]) (Url.pageDomains? "http://notsite.com/") =
    false := by
  decide

end Trigger

end ContentBlocking
