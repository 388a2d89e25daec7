import ApiClient.Pagination.Listing
import ApiClient.Pagination.Scan
import Mathlib.Algebra.Order.Floor.Div

/-!
# Scans of a list

A list cut into pages is scanned from its first item on, and as far as the condition asks for. What
carries the argument is `Scan.run_pages`: when the condition rejected all items of the first `n`
pages and items are left, the scan stands at the start of the list without these items, has asked
for these pages and asks for the one after them. It holds page by page because a page of a list is
the last one exactly if no items are left after it (`Listing.isLast_pageAt`). The page that ends
the scan is then the only one to look at.
-/

namespace ApiClient

variable {α : Type} {items seen : List α} {size : Nat} {params : List Parameter}
  {condition : Condition α}

/-- A condition meets none of the items shown to it after `seen`, and does not fail at one. -/
def Condition.Rejects (condition : Condition α) : List α → List α → Prop
  | _, [] => True
  | seen, a :: rest => condition seen a = .ok false ∧ condition.Rejects (seen ++ [a]) rest

theorem Condition.rejects_append (xs ys : List α) :
    condition.Rejects seen (xs ++ ys) ↔
      condition.Rejects seen xs ∧ condition.Rejects (seen ++ xs) ys := by
  induction xs generalizing seen with
  | nil => simp [Rejects]
  | cons x xs ih => simp [Rejects, ih, and_assoc]

theorem Condition.Rejects.take_drop (h : condition.Rejects [] items) (n : Nat) :
    condition.Rejects [] (items.take n) ∧ condition.Rejects (items.take n) (items.drop n) := by
  rwa [← List.take_append_drop n items, rejects_append] at h

namespace Listing

/-! ### The pages of a list -/

/-- The page of a list after its first `n` pages. -/
def pageAt (items : List α) (size : Nat) (params : List Parameter) (n : Nat) : Page α where
  num := n + 1
  size := size
  total := (items.length ⌈/⌉ size : Nat)
  content := (items.drop (n * size)).take size
  options := params

@[simp]
theorem content_pageAt (n : Nat) :
    (pageAt items size params n).content = (items.drop (n * size)).take size := rfl

/-- The calls for the first `count` pages of a listing, in order. -/
def firstPages (size : Nat) (params : List Parameter) (count : Nat) : List (PageCall α) :=
  (List.range count).map fun n => .get (n + 1) size params

theorem firstPages_succ (count : Nat) :
    firstPages (α := α) size params (count + 1) =
      firstPages size params count ++ [.get (count + 1) size params] := by
  simp [firstPages, List.range_succ]

/-- What it takes for `n` pages to hold all items. -/
theorem ceilDiv_le_iff (hsize : 0 < size) (count n : Nat) :
    count ⌈/⌉ size ≤ n ↔ count ≤ n * size := by
  rw [ceilDiv_le_iff_le_mul hsize, Nat.mul_comm]

/-- The pages that hold `count` items, of which there is at least one: items are left for the last
of them, and none after it. -/
theorem exists_last_page (hsize : 0 < size) (count : Nat) :
    ∃ n, max 1 (count ⌈/⌉ size) = n + 1 ∧ (n = 0 ∨ n * size < count) ∧
      count ≤ (n + 1) * size := by
  obtain ⟨n, hn⟩ : ∃ n, max 1 (count ⌈/⌉ size) = n + 1 := Nat.exists_eq_add_one.2 (by omega)
  have hbefore := ceilDiv_le_iff hsize count n
  have hlast := ceilDiv_le_iff hsize count (n + 1)
  exact ⟨n, hn, by omega, by omega⟩

theorem pageCount_le_iff (hsize : 0 < size) (count : Nat) (k : Int) :
    pageCount count size ≤ k ↔ (count : Int) ≤ k * size := by
  have hpos : (0 : Int) < size := by omega
  have hneg (quotient : Int) : -quotient ≤ k ↔ -k ≤ quotient := by omega
  rw [pageCount, Int.fdiv_eq_ediv_of_nonneg _ hpos.le, hneg, Int.le_ediv_iff_mul_le hpos,
    Int.neg_mul, Int.neg_le_neg_iff]

/-- The number of pages is that of the items by the size of a page, rounded up. -/
theorem pageCount_eq (hsize : 0 < size) (count : Nat) :
    pageCount count size = ((count ⌈/⌉ size : Nat) : Int) := by
  have hnonneg : 0 ≤ pageCount count size := by
    by_contra hneg
    have := (pageCount_le_iff hsize count (-1)).1 (by omega)
    omega
  obtain ⟨total, htotal⟩ := Int.eq_ofNat_of_zero_le hnonneg
  have hiff (k : Nat) : total ≤ k ↔ count ⌈/⌉ size ≤ k := by
    have := pageCount_le_iff hsize count k
    rw [htotal] at this
    rw [ceilDiv_le_iff hsize]
    exact_mod_cast this
  rw [htotal, le_antisymm ((hiff _).2 le_rfl) ((hiff _).1 le_rfl)]

theorem slice_natCast (start stop : Nat) :
    slice items start stop = (items.take stop).drop start := by
  have hplace (number : Nat) : place items.length number = min number items.length := by
    simp [place]
  rw [slice, hplace, hplace, ← List.take_eq_take_min]
  rcases Nat.le_total start items.length with h | h
  · rw [Nat.min_eq_left h]
  · rw [Nat.min_eq_right h, List.drop_eq_nil_of_le, List.drop_eq_nil_of_le] <;> simp [h]

/-- A list answers a request for one of its pages by their definition. -/
theorem getItems_eq (hsize : 0 < size) (n : Nat) :
    getItems items (n + 1) size params = .ok (pageAt items size params n) := by
  have hstart : ((n : Int) + 1 - 1) * size = (n * size : Nat) := by
    rw [Int.add_sub_cancel, Int.natCast_mul]
  have hstop : ((n * size : Nat) : Int) + size = (n * size + size : Nat) := by omega
  rw [getItems, if_neg (by omega), pageOfItems, pageCount_eq hsize, hstart, hstop, slice_natCast,
    List.drop_take, Nat.add_sub_cancel_left]
  rfl

/-- A page of a list is the last one exactly if no items are left after it. -/
theorem isLast_pageAt (hsize : 0 < size) (items : List α) (params : List Parameter) (n : Nat) :
    (pageAt items size params n).isLast = true ↔ items.length ≤ (n + 1) * size := by
  have hnext : (pageAt items size params n).hasNext = true ↔
      ¬ items.length ⌈/⌉ size ≤ n + 1 := by
    rw [Page.hasNext, decide_eq_true_iff]
    simp only [pageAt]
    omega
  rw [ceilDiv_le_iff hsize] at hnext
  have hempty : (pageAt items size params n).content.isEmpty = true →
      items.length ≤ (n + 1) * size := by
    simp only [content_pageAt, List.isEmpty_iff, List.take_eq_nil_iff, List.drop_eq_nil_iff,
      Nat.succ_mul]
    omega
  rw [Page.isLast, Bool.or_eq_true, Bool.not_eq_true', ← Bool.not_eq_true, hnext, not_not]
  exact ⟨fun h => h.elim hempty id, .inr⟩

/-- The page of an item: what is left of the items before it, the item, and what fits after it. -/
theorem exists_page_of_item {n : Nat} (before after : List α) (a : α)
    (hbefore : n * size ≤ before.length) (hitem : before.length + 1 ≤ (n + 1) * size) :
    ∃ rest, ((before ++ a :: after).drop (n * size)).take size =
      before.drop (n * size) ++ a :: rest := by
  have hlength : (before.drop (n * size)).length = before.length - n * size := List.length_drop
  rw [Nat.succ_mul] at hitem
  obtain ⟨room, hroom⟩ : ∃ room, size - (before.length - n * size) = room + 1 :=
    Nat.exists_eq_add_one.2 (by omega)
  refine ⟨after.take room, ?_⟩
  rw [List.drop_append_of_le_length hbefore, List.take_append, List.take_of_length_le (by omega),
    hlength, hroom, List.take_succ_cons]

end Listing

namespace Scan

/-! ### What a page adds to a scan -/

theorem visit_append (h : condition.Rejects seen items) (rest : List α) :
    visit condition seen (items ++ rest) = visit condition (seen ++ items) rest := by
  induction items generalizing seen with
  | nil => simp
  | cons a items ih => simp [visit, h.1, ih h.2]

theorem visit_of_rejects (h : condition.Rejects seen items) :
    visit condition seen items = (seen ++ items, none) := by
  simpa [visit] using visit_append h []

theorem visit_of_met {before : List α} {a : α} (after : List α)
    (h : condition.Rejects seen before) (hmet : condition (seen ++ before) a = .ok true) :
    visit condition seen (before ++ a :: after) = (seen ++ before ++ [a], some .met) := by
  rw [visit_append h, visit, hmet]

variable {calls : List (PageCall α)} {call : PageCall α} {n fuel : Nat}

/-- A list answers a call by the page that the call amounts to. -/
theorem ofGet_getItems (hsize : 0 < size) (hcall : call.direct = .get (n + 1) size params) :
    Pageable.ofGet (Listing.getItems items) (calls ++ [call]) =
      .ok (Listing.pageAt items size params n) := by
  rw [Pageable.ofGet, List.getLast?_concat, Option.map_some, hcall]
  exact Listing.getItems_eq hsize n

/-- The scan of a list stands after its first `n` pages: it has made `calls`, and `call` is the next
one. -/
structure After (items : List α) (size : Nat) (params : List Parameter) (condition : Condition α)
    (n : Nat) (calls : List (PageCall α)) (call : PageCall α) : Prop where
  /-- These pages have been asked for. -/
  asked : calls.map PageCall.direct = Listing.firstPages size params n
  /-- The page after them is asked for. -/
  asks : call.direct = .get (n + 1) size params
  /-- Their items have been shown. -/
  continues : ∀ fuel, run (.ofGet (Listing.getItems items)) condition params size (n + fuel) =
    continueWith (.ofGet (Listing.getItems items)) condition fuel (items.take (n * size)) calls
      call

theorem After.zero : After items size params condition 0 [] (.first size params) where
  asked := rfl
  asks := rfl
  continues fuel := by
    rw [Nat.zero_add, Nat.zero_mul, List.take_zero]
    rfl

theorem After.asked_next (h : After items size params condition n calls call) :
    (calls ++ [call]).map PageCall.direct = Listing.firstPages size params (n + 1) := by
  rw [List.map_append, h.asked, List.map_singleton, h.asks, Listing.firstPages_succ]

theorem After.succ (hsize : 0 < size) (h : After items size params condition n calls call)
    (hmore : (n + 1) * size < items.length)
    (hreject : condition.Rejects [] (items.take ((n + 1) * size))) :
    After items size params condition (n + 1) (calls ++ [call])
      (.next (Listing.pageAt items size params n)) where
  asked := h.asked_next
  asks := rfl
  continues fuel := by
    have htake : items.take ((n + 1) * size) =
        items.take (n * size) ++ (items.drop (n * size)).take size := by
      rw [Nat.succ_mul, List.take_add]
    have hlast : ¬ (Listing.pageAt items size params n).isLast = true := by
      rw [Listing.isLast_pageAt hsize]
      omega
    rw [htake, Condition.rejects_append, List.nil_append] at hreject
    rw [Nat.add_right_comm, Nat.add_assoc, h.continues, continueWith,
      ofGet_getItems hsize h.asks, htake]
    simp only [Listing.content_pageAt, visit_of_rejects hreject.2, hlast, if_false,
      Bool.false_eq_true]

/-- Where the condition rejects the items of the first `n` pages and items are left, the scan comes
to stand after them. -/
theorem run_pages (params : List Parameter) (hsize : 0 < size)
    (hmore : n = 0 ∨ n * size < items.length)
    (hreject : condition.Rejects [] (items.take (n * size))) :
    ∃ calls call, After items size params condition n calls call := by
  induction n with
  | zero => exact ⟨_, _, .zero⟩
  | succ n ih =>
    have hlt : (n + 1) * size < items.length := by simpa using hmore
    have hle : n * size ≤ (n + 1) * size := Nat.mul_le_mul_right _ (Nat.le_succ n)
    have hbefore := (hreject.take_drop (n * size)).1
    rw [List.take_take, Nat.min_eq_left hle] at hbefore
    obtain ⟨calls, call, h⟩ := ih (.inr (by omega)) hbefore
    exact ⟨_, _, h.succ hsize hlt hreject⟩

/-- A scan has ended: which items it has shown, which pages it has asked for, and how it ended. -/
structure EndsWith (scan : Scan α) (items : List α) (asked : List (PageCall α))
    (outcome : ScanEnd) : Prop where
  /-- The items shown to the condition, in order. -/
  seen : scan.seen = items
  /-- The pages asked for, in order. -/
  asked : scan.calls.map PageCall.direct = asked
  /-- How it ended. -/
  outcome : scan.outcome = some outcome

/-- The scan of a list ends with its next page if it meets its condition there, or if it shows the
rest of the list in vain. -/
theorem After.endsWith (hsize : 0 < size) (h : After items size params condition n calls call)
    {shown : List α} {outcome : Option ScanEnd}
    (hvisit : visit condition (items.take (n * size)) ((items.drop (n * size)).take size) =
      (shown, outcome))
    (hend : outcome = none → items.length ≤ (n + 1) * size) (hfuel : n + 1 ≤ fuel) :
    (run (.ofGet (Listing.getItems items)) condition params size fuel).EndsWith shown
      (Listing.firstPages size params (n + 1)) (outcome.getD .neverMet) := by
  obtain ⟨fuel, rfl⟩ := Nat.exists_eq_add_of_le hfuel
  rw [Nat.add_assoc, Nat.add_comm 1, h.continues, continueWith, ofGet_getItems hsize h.asks]
  cases outcome with
  | some outcome =>
    simp only [Listing.content_pageAt, hvisit]
    exact ⟨rfl, h.asked_next, rfl⟩
  | none =>
    have hlast := (Listing.isLast_pageAt hsize items params n).2 (hend rfl)
    simp only [Listing.content_pageAt, hvisit, hlast, if_true]
    exact ⟨rfl, h.asked_next, rfl⟩

/-- A list in pages of `size` items is scanned as far as the condition asks for. If it meets no
item, all of them are shown, in order, and the pages asked for are all pages of the list, or the
first one of an empty list. If `a` is the first item it meets, the items up to `a` are shown and the
pages asked for are those up to the page of `a`. -/
theorem list_scanned (hsize : 0 < size) (items : List α) (params : List Parameter)
    (condition : Condition α) :
    (condition.Rejects [] items → ∀ fuel, max 1 (items.length ⌈/⌉ size) ≤ fuel →
      (run (.ofGet (Listing.getItems items)) condition params size fuel).EndsWith items
        (Listing.firstPages size params (max 1 (items.length ⌈/⌉ size))) .neverMet) ∧
    ∀ before a after, items = before ++ a :: after →
      condition.Rejects [] before → condition before a = .ok true →
      ∀ fuel, (before.length + 1) ⌈/⌉ size ≤ fuel →
        (run (.ofGet (Listing.getItems items)) condition params size fuel).EndsWith
          (before ++ [a]) (Listing.firstPages size params ((before.length + 1) ⌈/⌉ size)) .met := by
  constructor
  · intro hreject fuel hfuel
    obtain ⟨n, hn, hmore, hlast⟩ := Listing.exists_last_page hsize items.length
    obtain ⟨hbefore, hpage⟩ := hreject.take_drop (n * size)
    have hrest : (items.drop (n * size)).take size = items.drop (n * size) := by
      rw [Nat.succ_mul] at hlast
      exact List.take_of_length_le (by rw [List.length_drop]; omega)
    have hvisit := visit_of_rejects hpage
    rw [List.take_append_drop, ← hrest] at hvisit
    obtain ⟨calls, call, h⟩ := run_pages params hsize hmore hbefore
    rw [hn] at hfuel ⊢
    exact h.endsWith hsize hvisit (fun _ => hlast) hfuel
  · rintro before a after rfl hreject hmet fuel hfuel
    obtain ⟨n, hn, hmore, hlast⟩ := Listing.exists_last_page hsize (before.length + 1)
    have hpos : 1 ≤ (before.length + 1) ⌈/⌉ size := by
      have := Listing.ceilDiv_le_iff hsize (before.length + 1) 0
      omega
    have hle : n * size ≤ before.length := by
      rcases hmore with rfl | hlt <;> omega
    obtain ⟨hbefore, hpage⟩ := hreject.take_drop (n * size)
    have hfirst : (before ++ a :: after).take (n * size) = before.take (n * size) :=
      List.take_append_of_le_length hle
    obtain ⟨rest, hrest⟩ := Listing.exists_page_of_item before after a hle hlast
    have hvisit := visit_of_met rest hpage (by rwa [List.take_append_drop])
    rw [List.take_append_drop, ← hrest, ← hfirst] at hvisit
    rw [max_eq_right hpos] at hn
    have hleft : n = 0 ∨ n * size < (before ++ a :: after).length := by
      rw [List.length_append, List.length_cons]
      omega
    obtain ⟨calls, call, h⟩ := run_pages params hsize hleft (hfirst ▸ hbefore)
    rw [hn] at hfuel ⊢
    exact h.endsWith hsize hvisit nofun hfuel

/-- Of three items in pages of two, the third is on the second page; four items are two full pages,
and no items one empty page. -/
theorem list_scanned_of_two_pages :
    (run (.ofGet (Listing.getItems [1, 2, 3])) (fun _ a => .ok (a == 3)) [] 2 2).EndsWith [1, 2, 3]
      [.get 1 2 [], .get 2 2 []] .met ∧
    (run (.ofGet (Listing.getItems [1, 2, 3, 4])) (fun _ _ => .ok false) [] 2 2).EndsWith
      [1, 2, 3, 4] [.get 1 2 [], .get 2 2 []] .neverMet ∧
    (run (.ofGet (Listing.getItems ([] : List Nat))) (fun _ _ => .ok false) [] 2 1).EndsWith []
      [.get 1 2 []] .neverMet :=
  ⟨(list_scanned (by decide) [1, 2, 3] [] _).2 [1, 2] 3 [] rfl ⟨rfl, rfl, trivial⟩ rfl 2
      (by decide),
    (list_scanned (by decide) [1, 2, 3, 4] [] _).1 ⟨rfl, rfl, rfl, rfl, trivial⟩ 2 (by decide),
    (list_scanned (by decide) [] [] _).1 trivial 1 (by decide)⟩

end Scan

end ApiClient
