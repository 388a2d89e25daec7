import ApiClient.Pagination.Scan

/-!
# Walks through a listing

A scan whose condition is never met visits every item that the listing has to show. `Asked` is that
walk page by page: the items visited so far and the calls made, the last of which has not been
answered. It is tied to `Scan` by `Asked.continueWith_eq`, so that what else walks a listing can be
compared with a scan one page at a time.
-/

namespace ApiClient

variable {α : Type}

/-- The condition that no item meets. -/
def Condition.never : Condition α := fun _ _ => .ok false

namespace Scan

/-- Under the condition that is never met, every item of a page is visited. -/
theorem visit_never (seen items : List α) :
    visit Condition.never seen items = (seen ++ items, none) := by
  induction items generalizing seen with
  | nil => simp [visit]
  | cons a rest ih => simp [visit, Condition.never, ih]

/-- The items that a walk of `fuel` pages visits. -/
def visited (listing : Pageable α) (first : PageCall α) (fuel : Nat) : List α :=
  (continueWith listing Condition.never fuel [] [] first).seen

/-- `items` are all that a walk visits, which made `calls` and came to its end. -/
def Visits (listing : Pageable α) (first : PageCall α) (items : List α)
    (calls : List (PageCall α)) : Prop :=
  ∃ fuel outcome, continueWith listing Condition.never fuel [] [] first =
    { seen := items, calls, outcome := some outcome }

end Scan

/-- A walk has visited `seen` and made `calls`, the last of which has not been answered. -/
inductive Asked (listing : Pageable α) (first : PageCall α) :
    List α → List (PageCall α) → Prop where
  /-- The first call. -/
  | first : Asked listing first [] [first]
  /-- All items of a page are visited and the page after it is asked for. -/
  | next {seen : List α} {calls : List (PageCall α)} {page : Page α}
      (h : Asked listing first seen calls) (hpage : listing calls = .ok page)
      (hlast : page.isLast = false) :
      Asked listing first (seen ++ page.content) (calls ++ [.next page])

variable {listing : Pageable α} {first : PageCall α} {seen : List α} {calls : List (PageCall α)}
  {page : Page α}

/-- `pages` are the pages behind a walk that has made `calls`: all calls but the last one were
answered with them, and each asks for the page after the one before. -/
structure Behind (listing : Pageable α) (first : PageCall α) (calls : List (PageCall α))
    (pages : List (Page α)) : Prop where
  /-- The first call, and one call for each page behind the walk. -/
  calls_eq : calls = first :: pages.map PageCall.next
  /-- Each page is the answer to its call. -/
  answers : ∀ i, (hi : i < pages.length) → listing (calls.take (i + 1)) = .ok pages[i]

theorem Behind.length_eq {pages : List (Page α)} (h : Behind listing first calls pages) :
    calls.length = pages.length + 1 := by
  rw [h.calls_eq, List.length_cons, List.length_map]

/-- The next call puts its page behind the walk. -/
theorem Behind.next {pages : List (Page α)} (h : Behind listing first calls pages)
    (hpage : listing calls = .ok page) :
    Behind listing first (calls ++ [.next page]) (pages ++ [page]) := by
  have hlength := h.length_eq
  refine ⟨by rw [h.calls_eq, List.map_append]; rfl, fun i hi => ?_⟩
  rw [List.length_append, List.length_singleton] at hi
  rw [List.take_append_of_le_length (by omega)]
  by_cases hlast : i < pages.length
  · rw [List.getElem_append_left hlast]
    exact h.answers i hlast
  · obtain rfl : i = pages.length := by omega
    rw [List.take_of_length_le (by omega), List.getElem_concat_length rfl]
    exact hpage

/-- A walk has visited the items of the pages behind it. -/
theorem Asked.exists_behind (h : Asked listing first seen calls) :
    ∃ pages, Behind listing first calls pages ∧ seen = pages.flatMap Page.content := by
  induction h with
  | first => exact ⟨[], ⟨rfl, fun i hi => absurd hi (Nat.not_lt_zero i)⟩, rfl⟩
  | @next seen calls page _ hpage _ ih =>
    obtain ⟨pages, hpages, rfl⟩ := ih
    exact ⟨pages ++ [page], hpages.next hpage, by simp⟩

/-- A scan that goes as far as a walk goes on like it. -/
theorem Asked.continueWith_eq (h : Asked listing first seen calls) :
    ∃ before call, calls = before ++ [call] ∧ ∀ fuel,
      Scan.continueWith listing Condition.never (before.length + fuel) [] [] first =
        Scan.continueWith listing Condition.never fuel seen before call := by
  induction h with
  | first => exact ⟨[], first, rfl, fun fuel => by simp⟩
  | @next seen calls page _ hpage hlast ih =>
    obtain ⟨before, call, rfl, hrun⟩ := ih
    refine ⟨before ++ [call], .next page, rfl, fun fuel => ?_⟩
    have hlen : (before ++ [call]).length + fuel = before.length + (fuel + 1) := by
      simp only [List.length_append, List.length_singleton]; omega
    rw [hlen, hrun]
    simp only [Scan.continueWith, hpage, Scan.visit_never, hlast, Bool.false_eq_true, if_false]

/-- What a walk has visited is what a scan has shown that goes as far. -/
theorem Asked.visited_eq (h : Asked listing first seen calls) :
    ∃ fuel, Scan.visited listing first fuel = seen := by
  obtain ⟨before, call, -, hrun⟩ := h.continueWith_eq
  refine ⟨before.length, ?_⟩
  simpa [Scan.visited, Scan.continueWith] using congrArg Scan.seen (hrun 0)

/-- The items of the page that answers a walk are visited next. -/
theorem Asked.visited_page (h : Asked listing first seen calls) (hpage : listing calls = .ok page) :
    ∃ fuel, Scan.visited listing first fuel = seen ++ page.content := by
  obtain ⟨before, call, rfl, hrun⟩ := h.continueWith_eq
  refine ⟨before.length + 1, ?_⟩
  rw [Scan.visited, hrun]
  simp only [Scan.continueWith, hpage, Scan.visit_never]
  split <;> rfl

theorem Asked.visits_of_last (h : Asked listing first seen calls) (hpage : listing calls = .ok page)
    (hlast : page.isLast = true) : Scan.Visits listing first (seen ++ page.content) calls := by
  obtain ⟨before, call, rfl, hrun⟩ := h.continueWith_eq
  refine ⟨before.length + 1, .neverMet, ?_⟩
  rw [hrun]
  simp only [Scan.continueWith, hpage, Scan.visit_never, hlast, if_true]

theorem Asked.visits_of_error (h : Asked listing first seen calls) {e : Outside}
    (he : listing calls = .error e) : Scan.Visits listing first seen calls := by
  obtain ⟨before, call, rfl, hrun⟩ := h.continueWith_eq
  refine ⟨before.length + 1, .failed e, ?_⟩
  rw [hrun]
  simp only [Scan.continueWith, he]

end ApiClient
