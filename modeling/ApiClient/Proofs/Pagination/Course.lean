import ApiClient.Proofs.Pagination.Walk

/-!
# How far a scan goes

Whatever its condition, a scan goes from page to page, and `Scan.Course` says what it has done: the
pages behind it are followed by others, and the items shown are those of the pages fetched, from the
first one on. So where pages are numbered one after the other, the pages behind a scan are numbered
from one, and a bound on the number of pages that they tell of bounds the calls of the scan.
-/

namespace ApiClient

variable {α : Type} {listing : Pageable α} {condition : Condition α} {first call : PageCall α}
  {calls : List (PageCall α)} {pages : List (Page α)} {page : Page α} {fuel : Nat} {seen : List α}

namespace Scan

/-! ## What a scan has done -/

/-- The items shown of a page are the first ones, and all of them if the scan goes on. -/
theorem visit_prefix (condition : Condition α) (seen items : List α) :
    (visit condition seen items).1 <+: seen ++ items ∧
      ((visit condition seen items).2 = none →
        (visit condition seen items).1 = seen ++ items) := by
  induction items generalizing seen with
  | nil => simp [visit]
  | cons a rest ih =>
    rcases hmet : condition seen a with e | _ | _
    · exact ⟨⟨rest, by simp [visit, hmet]⟩, by simp [visit, hmet]⟩
    · simpa [visit, hmet] using ih (seen ++ [a])
    · exact ⟨⟨rest, by simp [visit, hmet]⟩, by simp [visit, hmet]⟩

/-- With a call, a scan either ends, having shown items of the page that answers it, or shows all of
them and goes on with the page after it. -/
theorem continueWith_succ (listing : Pageable α) (condition : Condition α) (fuel : Nat)
    (seen : List α) (calls : List (PageCall α)) (call : PageCall α) :
    (∃ shown outcome, continueWith listing condition (fuel + 1) seen calls call =
        { seen := shown, calls := calls ++ [call], outcome := some outcome } ∧
      shown <+: seen ++ (listing (calls ++ [call])).toOption.toList.flatMap Page.content) ∨
    ∃ page, listing (calls ++ [call]) = .ok page ∧ page.isLast = false ∧
      continueWith listing condition (fuel + 1) seen calls call =
        continueWith listing condition fuel (seen ++ page.content) (calls ++ [call])
          (.next page) := by
  cases hcall : listing (calls ++ [call]) with
  | error e => exact .inl ⟨seen, .failed e, by simp [continueWith, hcall], List.prefix_append _ _⟩
  | ok page =>
    have hprefix := visit_prefix condition seen page.content
    rcases hvisit : visit condition seen page.content with ⟨shown, outcome | outcome⟩
    · rw [hvisit] at hprefix
      obtain rfl : shown = seen ++ page.content := hprefix.2 rfl
      cases hlast : page.isLast with
      | true =>
        exact .inl ⟨seen ++ page.content, .neverMet,
          by simp [continueWith, hcall, hvisit, hlast], by simp [Except.toOption]⟩
      | false => exact .inr ⟨page, rfl, hlast, by simp [continueWith, hcall, hvisit, hlast]⟩
    · rw [hvisit] at hprefix
      exact .inl ⟨shown, outcome, by simp [continueWith, hcall, hvisit],
        by simpa [Except.toOption] using hprefix.1⟩

/-- The pages that the calls of a scan were answered with, where `pages` are those behind it. -/
def fetched (listing : Pageable α) (scan : Scan α) (pages : List (Page α)) : List (Page α) :=
  pages ++ (listing scan.calls).toOption.toList

/-- What a scan of at most `fuel` calls has done. The pages `pages` are behind it. -/
structure Course (listing : Pageable α) (first : PageCall α) (fuel : Nat) (scan : Scan α)
    (pages : List (Page α)) : Prop where
  /-- All calls but the last one were answered with these pages. -/
  behind : Behind listing first scan.calls pages
  /-- None of them is the last one. -/
  followed : ∀ page ∈ pages, page.isLast = false
  /-- The items of the fetched pages are shown in order. -/
  shown : scan.seen <+: (fetched listing scan pages).flatMap Page.content
  /-- A scan that has not ended has made all its calls, and more pages follow. -/
  goesOn : scan.outcome = none →
    scan.calls.length = fuel ∧ ∃ page, listing scan.calls = .ok page ∧ page.isLast = false

/-- What a scan has done that was about to make `call` when `pages` were behind it. -/
theorem exists_course_of_behind (condition : Condition α)
    (hbehind : Behind listing first (calls ++ [call]) pages)
    (hfollowed : ∀ page ∈ pages, page.isLast = false) (fuel : Nat) :
    ∃ pages', Course listing first (calls.length + fuel + 1)
      (continueWith listing condition (fuel + 1) (pages.flatMap Page.content) calls call)
      pages' := by
  induction fuel generalizing calls call pages with
  | zero =>
    rcases continueWith_succ listing condition 0 (pages.flatMap Page.content) calls call with
      ⟨shown, outcome, hscan, hshown⟩ | ⟨page, hpage, hlast, hscan⟩
    · exact ⟨pages, hscan ▸ ⟨hbehind, hfollowed, by simpa [fetched] using hshown, nofun⟩⟩
    · refine ⟨pages, hscan ▸ ⟨hbehind, hfollowed, ?_, fun _ => ⟨?_, page, hpage, hlast⟩⟩⟩
      · simp [continueWith, fetched, hpage, Except.toOption]
      · simp [continueWith]
  | succ fuel ih =>
    rcases continueWith_succ listing condition (fuel + 1) (pages.flatMap Page.content) calls call
      with ⟨shown, outcome, hscan, hshown⟩ | ⟨page, hpage, hlast, hscan⟩
    · exact ⟨pages, hscan ▸ ⟨hbehind, hfollowed, by simpa [fetched] using hshown, nofun⟩⟩
    · have hmore : ∀ p ∈ pages ++ [page], p.isLast = false := by
        intro p hp
        rcases List.mem_append.mp hp with hp | hp
        · exact hfollowed p hp
        · rwa [List.mem_singleton.mp hp]
      have hcourse := ih (hbehind.next hpage) hmore
      rw [hscan]
      simpa [Nat.add_assoc, Nat.add_comm, Nat.add_left_comm] using hcourse

/-- What a scan has done that may make a call. -/
theorem exists_course (listing : Pageable α) (condition : Condition α) (params : List Parameter)
    (pageSize : Int) (fuel : Nat) :
    ∃ pages, Course listing (.first pageSize params) (fuel + 1)
      (run listing condition params pageSize (fuel + 1)) pages := by
  have hbehind : Behind listing (.first pageSize params) ([] ++ [.first pageSize params]) [] :=
    ⟨rfl, nofun⟩
  simpa [run] using exists_course_of_behind condition hbehind nofun fuel

end Scan

/-! ## Numbered pages -/

/-- The pages of a listing are numbered one after the other, from one on. -/
structure Pageable.Numbered (listing : Pageable α) : Prop where
  /-- The first page. -/
  first : ∀ calls limit params page,
    listing (calls ++ [.get 1 limit params]) = .ok page → page.num = 1
  /-- The page after a page. -/
  next : ∀ calls before page, listing (calls ++ [.next before]) = .ok page →
    page.num = before.num + 1

/-- The calls up to the one that asks for the page after the page at `i`. -/
theorem Behind.take_succ (h : Behind listing first calls pages) {i : Nat} (hi : i < pages.length) :
    calls.take (i + 2) = calls.take (i + 1) ++ [.next pages[i]] := by
  have hlength := h.length_eq
  rw [List.take_add_one, List.getElem?_eq_getElem (by omega)]
  simp [h.calls_eq]

variable {params : List Parameter} {pageSize : Int}

/-- The pages of a walk bear their numbers. -/
theorem Behind.num_eq (h : Behind listing (.first pageSize params) calls pages)
    (hnumbered : listing.Numbered) {i : Nat} (hi : i ≤ pages.length)
    (hpage : listing (calls.take (i + 1)) = .ok page) : page.num = i + 1 := by
  induction i generalizing page with
  | zero =>
    rw [h.calls_eq] at hpage
    simpa using hnumbered.first [] _ _ page hpage
  | succ i ih =>
    rw [h.take_succ hi] at hpage
    have hnext := hnumbered.next _ _ page hpage
    have hbefore := ih (Nat.le_of_succ_le hi) (h.answers i hi)
    omega

theorem Page.num_lt_total (h : page.isLast = false) : page.num < page.total := by
  simp only [Page.isLast, Page.hasNext, Bool.or_eq_false_iff, Bool.not_eq_false',
    decide_eq_true_iff] at h
  exact h.2

namespace Scan

variable {scan : Scan α} {bound : Int}

/-- A scan of numbered pages makes no more calls than there may be pages, and at least the first
one. -/
theorem Course.calls_length_le
    (h : Course listing (.first pageSize params) fuel scan pages)
    (hnumbered : listing.Numbered) (hbound : ∀ calls page, listing calls = .ok page →
      page.total ≤ bound) : (scan.calls.length : Int) ≤ max 1 bound := by
  have hlength := h.behind.length_eq
  rcases Nat.eq_zero_or_pos pages.length with hnone | hsome
  · omega
  · -- the page behind the scan that was fetched last bears the highest number
    have hlast : pages.length - 1 < pages.length := by omega
    have hpage := h.behind.answers _ hlast
    have hnum := h.behind.num_eq hnumbered (Nat.le_of_lt hlast) hpage
    have hnext := Page.num_lt_total (h.followed _ (List.getElem_mem hlast))
    have htotal := hbound _ _ hpage
    omega

/-- A scan of numbered pages that may make as many calls as there may be pages ends. -/
theorem Course.exists_outcome (h : Course listing (.first pageSize params) fuel scan pages)
    (hnumbered : listing.Numbered) (hbound : ∀ calls page, listing calls = .ok page →
      page.total ≤ bound) (hfuel : bound ≤ fuel) : ∃ outcome, scan.outcome = some outcome := by
  cases hscan : scan.outcome with
  | some outcome => exact ⟨outcome, rfl⟩
  | none =>
    obtain ⟨hcalls, page, hpage, hlast⟩ := h.goesOn hscan
    have hlength := h.behind.length_eq
    have htake : scan.calls.take (pages.length + 1) = scan.calls :=
      List.take_of_length_le (by omega)
    have hnum := h.behind.num_eq hnumbered (Nat.le_refl _) (htake.symm ▸ hpage)
    have hnext := Page.num_lt_total hlast
    have htotal := hbound _ _ hpage
    omega

/-- A scan ends whatever its condition does if pages are numbered one after the other and none tells
of more than `bound` pages, even if what they tell of changes and calls fail. It makes at most
`bound` calls, or one if `bound` is less than that, and shows items of the pages fetched, each at
most once: the items shown are the first ones of these pages. -/
theorem ends_within_pages (listing : Pageable α) (condition : Condition α)
    (params : List Parameter) (pageSize bound : Int) (hnumbered : listing.Numbered)
    (hbound : ∀ calls page, listing calls = .ok page → page.total ≤ bound) (fuel : Nat)
    (hfuel : max 1 bound ≤ fuel) :
    ∃ outcome pages, (run listing condition params pageSize fuel).outcome = some outcome ∧
      ((run listing condition params pageSize fuel).calls.length : Int) ≤ max 1 bound ∧
      Behind listing (.first pageSize params) (run listing condition params pageSize fuel).calls
        pages ∧
      (run listing condition params pageSize fuel).seen <+:
        (fetched listing (run listing condition params pageSize fuel) pages).flatMap
          Page.content := by
  obtain ⟨fuel, rfl⟩ : ∃ n, fuel = n + 1 := Nat.exists_eq_add_one.2 (by omega)
  obtain ⟨pages, hcourse⟩ := exists_course listing condition params pageSize fuel
  obtain ⟨outcome, houtcome⟩ := hcourse.exists_outcome hnumbered hbound (by omega)
  exact ⟨outcome, pages, houtcome, hcourse.calls_length_le hnumbered hbound, hcourse.behind,
    hcourse.shown⟩

/-- The first page of a listing tells of four pages and the others of three. A scan that meets
nothing ends. -/
theorem ends_within_pages_of_shrinking :
    let page : Int → Page Nat := fun num =>
      { num, size := 2, total := if num = 1 then 4 else 3, content := [7, 8], options := [] }
    let listing : Pageable Nat := fun calls =>
      match calls.getLast? with
      | some (.next before) => .ok (page (before.num + 1))
      | _ => .ok (page 1)
    let scan := run listing .never [] 2 4
    listing.Numbered ∧ (∀ calls page, listing calls = .ok page → page.total ≤ 4) ∧
      ∃ outcome pages, scan.outcome = some outcome ∧ (scan.calls.length : Int) ≤ max 1 4 ∧
        Behind listing (.first 2 []) scan.calls pages ∧
        scan.seen <+: (fetched listing scan pages).flatMap Page.content := by
  intro page listing scan
  have hpage (num : Int) : (page num).total ≤ 4 := by
    dsimp only [page]
    split <;> omega
  have hnumbered : listing.Numbered := by
    refine ⟨fun calls limit params p h => ?_, fun calls before p h => ?_⟩
    · simp only [listing, List.getLast?_concat, Except.ok.injEq] at h
      rw [← h]
    · simp only [listing, List.getLast?_concat, Except.ok.injEq] at h
      rw [← h]
  have hbound : ∀ calls p, listing calls = .ok p → p.total ≤ 4 := by
    intro calls p h
    simp only [listing] at h
    split at h <;> cases h <;> exact hpage _
  exact ⟨hnumbered, hbound,
    ends_within_pages listing .never [] 2 4 hnumbered hbound 4 (by decide)⟩

end Scan

end ApiClient
