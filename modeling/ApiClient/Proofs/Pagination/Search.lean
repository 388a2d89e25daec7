import ApiClient.Proofs.Pagination.Scanning

/-!
# Scans as lazy searches

What a scan does can be seen from outside: it asks the listing for pages and shows items to the
condition, and each time it goes on by the answer. `Search.Walked` and `Search.Ended` say which
traces of such events are those of a lazy search from left to right, without a word about how they
come about, and `Scan.run_eq_iff` says that a scan has just these.

A listing and a condition are arbitrary, so either may fail at any event of a trace. The scan then
ends there with what it has asked for and shown, and so the order of its events is in what it has
done, although a `Scan` keeps its calls and its items apart.
-/

namespace ApiClient

variable {α : Type}

/-- An event of a search, with the answer to it. -/
inductive SearchEvent (α : Type)
  /-- A page is asked for. -/
  | page (call : PageCall α) (answer : Except Outside (Page α))
  /-- An item is shown to the condition. -/
  | item (a : α) (answer : Except Outside Bool)

namespace Search

/-- The calls on the listing in a trace, in order. -/
def calls (t : List (SearchEvent α)) : List (PageCall α) :=
  t.filterMap fun
    | .page call _ => some call
    | .item _ _ => none

/-- The items shown to the condition in a trace, in order. -/
def items (t : List (SearchEvent α)) : List α :=
  t.filterMap fun
    | .page _ _ => none
    | .item a _ => some a

/-- The events of items that are shown one after the other and do not meet the condition. -/
def rejected (shown : List α) : List (SearchEvent α) :=
  shown.map fun a => .item a (.ok false)

/-- A search has met its condition at no item so far: `t` is what it has done, and `call` is due.
The page after a page is due when all of its items have been shown, it has items, and it is not the
last one by its number. -/
inductive Walked (first : PageCall α) : List (SearchEvent α) → PageCall α → Prop
  /-- The first call is due. -/
  | first : Walked first [] first
  /-- The page after a page is due. -/
  | next {t : List (SearchEvent α)} {call : PageCall α} {page : Page α}
      (h : Walked first t call) (hitems : page.content ≠ []) (hnum : page.num < page.total) :
      Walked first (t ++ .page call (.ok page) :: rejected page.content) (.next page)

/-- A search has done `t` and has ended. -/
inductive Ended (first : PageCall α) : List (SearchEvent α) → ScanEnd → Prop
  /-- The call that was due has failed. -/
  | unanswered {t : List (SearchEvent α)} {call : PageCall α} {e : Outside}
      (h : Walked first t call) : Ended first (t ++ [.page call (.error e)]) (.failed e)
  /-- An item has met the condition, and no item before it. -/
  | met {t : List (SearchEvent α)} {call : PageCall α} {page : Page α} {before after : List α}
      {a : α} (h : Walked first t call) (hpage : page.content = before ++ a :: after) :
      Ended first (t ++ .page call (.ok page) :: (rejected before ++ [.item a (.ok true)])) .met
  /-- The condition has failed at an item. -/
  | failed {t : List (SearchEvent α)} {call : PageCall α} {page : Page α} {before after : List α}
      {a : α} {e : Outside} (h : Walked first t call)
      (hpage : page.content = before ++ a :: after) :
      Ended first (t ++ .page call (.ok page) :: (rejected before ++ [.item a (.error e)]))
        (.failed e)
  /-- All items of the last page have been shown: it has none, or it is the last one by its
  number. -/
  | exhausted {t : List (SearchEvent α)} {call : PageCall α} {page : Page α}
      (h : Walked first t call) (hlast : page.content = [] ∨ page.total ≤ page.num) :
      Ended first (t ++ .page call (.ok page) :: rejected page.content) .neverMet

/-- The answer to an event is the one that the listing or the condition gives after the events
`before`. -/
def AnsweredAfter (listing : Pageable α) (condition : Condition α)
    (before : List (SearchEvent α)) : SearchEvent α → Prop
  | .page call answer => listing (calls before ++ [call]) = answer
  | .item a answer => condition (items before) a = answer

/-- All answers in a trace are those of the listing and the condition. -/
def Answered (listing : Pageable α) (condition : Condition α) (t : List (SearchEvent α)) : Prop :=
  ∀ before event after, t = before ++ event :: after →
    AnsweredAfter listing condition before event

/-- A trace is that of a lazy search with at most `fuel` calls, and `scan` is what it comes to. -/
structure TraceOf (listing : Pageable α) (condition : Condition α) (first : PageCall α)
    (fuel : Nat) (scan : Scan α) (t : List (SearchEvent α)) : Prop where
  /-- The listing and the condition have given the answers. -/
  answered : Answered listing condition t
  /-- These items have been shown. -/
  seen : scan.seen = items t
  /-- These calls have been made. -/
  asked : scan.calls = calls t
  /-- The scan has ended as the search has. -/
  ended : ∀ outcome, scan.outcome = some outcome →
    Ended first t outcome ∧ (calls t).length ≤ fuel
  /-- The scan has not ended if the search has not, and then it has made as many calls as it may. -/
  goesOn : scan.outcome = none → (∃ call, Walked first t call) ∧ (calls t).length = fuel

variable {listing : Pageable α} {condition : Condition α} {first call : PageCall α}
  {t : List (SearchEvent α)} {page : Page α} {shown : List α} {fuel : Nat}

/-! ### Traces -/

@[simp]
theorem calls_append (t u : List (SearchEvent α)) : calls (t ++ u) = calls t ++ calls u :=
  List.filterMap_append

@[simp]
theorem items_append (t u : List (SearchEvent α)) : items (t ++ u) = items t ++ items u :=
  List.filterMap_append

@[simp]
theorem calls_nil : calls ([] : List (SearchEvent α)) = [] := rfl

@[simp]
theorem items_nil : items ([] : List (SearchEvent α)) = [] := rfl

@[simp]
theorem calls_page_cons (answer : Except Outside (Page α)) :
    calls (.page call answer :: t) = call :: calls t := rfl

@[simp]
theorem items_page_cons (answer : Except Outside (Page α)) :
    items (.page call answer :: t) = items t := rfl

@[simp]
theorem calls_item_cons (a : α) (answer : Except Outside Bool) :
    calls (.item a answer :: t) = calls t := rfl

@[simp]
theorem items_item_cons (a : α) (answer : Except Outside Bool) :
    items (.item a answer :: t) = a :: items t := rfl

@[simp]
theorem calls_rejected (shown : List α) : calls (rejected shown) = [] := by
  induction shown with
  | nil => rfl
  | cons a shown ih => exact ih

@[simp]
theorem items_rejected (shown : List α) : items (rejected shown) = shown := by
  induction shown with
  | nil => rfl
  | cons a shown ih => exact congrArg (a :: ·) ih

theorem answered_concat {event : SearchEvent α} :
    Answered listing condition (t ++ [event]) ↔
      Answered listing condition t ∧ AnsweredAfter listing condition t event := by
  constructor
  · intro h
    constructor
    · rintro before event' after rfl
      exact h before event' (after ++ [event]) (by simp)
    · exact h t event [] rfl
  · rintro ⟨ht, hevent⟩ before event' after heq
    -- the event is the last one, or one of those before it
    rcases List.eq_nil_or_concat after with rfl | ⟨after, last, rfl⟩
    · obtain ⟨rfl, h⟩ := List.append_inj' heq rfl
      obtain rfl := List.singleton_inj.mp h
      exact hevent
    · have heq : t ++ [event] = (before ++ event' :: after) ++ [last] := by simpa using heq
      exact ht before event' after (List.append_inj' heq rfl).1

theorem answered_rejected : Answered listing condition (t ++ rejected shown) ↔
    Answered listing condition t ∧ condition.Rejects (items t) shown := by
  induction shown generalizing t with
  | nil => simp [rejected, Condition.Rejects]
  | cons a shown ih =>
    have hsplit : t ++ rejected (a :: shown) = (t ++ [.item a (.ok false)]) ++ rejected shown := by
      simp [rejected]
    rw [hsplit, ih, answered_concat, Condition.Rejects, and_assoc]
    simp [AnsweredAfter]

/-- A page and the items of it that do not meet the condition. -/
theorem answered_page : Answered listing condition (t ++ .page call (.ok page) :: rejected shown) ↔
    Answered listing condition t ∧ listing (calls t ++ [call]) = .ok page ∧
      condition.Rejects (items t) shown := by
  rw [List.append_cons, answered_rejected, answered_concat, and_assoc]
  simp [AnsweredAfter]

/-- A page, the items of it that do not meet the condition, and one more item. -/
theorem answered_page_item {a : α} {answer : Except Outside Bool} :
    Answered listing condition
        (t ++ .page call (.ok page) :: (rejected shown ++ [.item a answer])) ↔
      Answered listing condition t ∧ listing (calls t ++ [call]) = .ok page ∧
        condition.Rejects (items t) shown ∧ condition (items t ++ shown) a = answer := by
  have hsplit : t ++ .page call (.ok page) :: (rejected shown ++ [.item a answer]) =
      (t ++ .page call (.ok page) :: rejected shown) ++ [.item a answer] := by simp
  rw [hsplit, answered_concat, answered_page, and_assoc, and_assoc]
  simp [AnsweredAfter]

/-! ### The scan of a trace -/

theorem isLast_iff : page.isLast = true ↔ page.content = [] ∨ page.total ≤ page.num := by
  simp [Page.isLast, Page.hasNext]

/-- A scan that has done what a search has done goes on with the call that is due. -/
theorem Walked.continueWith_eq (h : Walked first t call) (ht : Answered listing condition t)
    (fuel : Nat) : Scan.continueWith listing condition ((calls t).length + fuel) [] [] first =
      Scan.continueWith listing condition fuel (items t) (calls t) call := by
  induction h generalizing fuel with
  | first => simp
  | @next t call page _ hitems hnum ih =>
    obtain ⟨ht, hpage, hreject⟩ := answered_page.mp ht
    have hlast : ¬ page.isLast = true := by
      rw [isLast_iff, not_or, Int.not_le]
      exact ⟨hitems, hnum⟩
    have hfuel : (calls (t ++ .page call (.ok page) :: rejected page.content)).length + fuel =
        (calls t).length + (fuel + 1) := by
      simp only [calls_append, calls_page_cons, calls_rejected, List.length_append,
        List.length_singleton]
      omega
    rw [hfuel, ih ht]
    simp [Scan.continueWith, hpage, Scan.visit_of_rejects hreject, hlast]

/-- A scan that goes further than a search makes the call that is due. -/
theorem Walked.exists_continueWith_eq (h : Walked first t call)
    (ht : Answered listing condition t) (hfuel : (calls t).length + 1 ≤ fuel) :
    ∃ more, Scan.continueWith listing condition fuel [] [] first =
      Scan.continueWith listing condition (more + 1) (items t) (calls t) call := by
  obtain ⟨more, rfl⟩ := Nat.exists_eq_add_of_le hfuel
  refine ⟨more, ?_⟩
  rw [Nat.add_assoc, Nat.add_comm 1, h.continueWith_eq ht]

/-- What a search that has ended has done is what a scan does. -/
theorem Ended.continueWith_eq {outcome : ScanEnd} (h : Ended first t outcome)
    (ht : Answered listing condition t) (hfuel : (calls t).length ≤ fuel) :
    Scan.continueWith listing condition fuel [] [] first =
      { seen := items t, calls := calls t, outcome := some outcome } := by
  cases h with
  | @unanswered t call e h =>
    obtain ⟨ht, hcall⟩ := answered_concat.mp ht
    obtain ⟨more, hscan⟩ := h.exists_continueWith_eq ht (by simpa using hfuel)
    have hcall : listing (calls t ++ [call]) = .error e := hcall
    rw [hscan]
    simp [Scan.continueWith, hcall]
  | @met t call page before after a h hpage =>
    obtain ⟨ht, hcall, hreject, hmet⟩ := answered_page_item.mp ht
    obtain ⟨more, hscan⟩ := h.exists_continueWith_eq ht (by simpa using hfuel)
    rw [hscan]
    simp [Scan.continueWith, hcall, hpage, Scan.visit_of_met after hreject hmet]
  | @failed t call page before after a e h hpage =>
    obtain ⟨ht, hcall, hreject, hfails⟩ := answered_page_item.mp ht
    obtain ⟨more, hscan⟩ := h.exists_continueWith_eq ht (by simpa using hfuel)
    have hvisit : Scan.visit condition (items t) (before ++ a :: after) =
        (items t ++ before ++ [a], some (.failed e)) := by
      rw [Scan.visit_append hreject, Scan.visit, hfails]
    rw [hscan]
    simp [Scan.continueWith, hcall, hpage, hvisit]
  | @exhausted t call page h hlast =>
    obtain ⟨ht, hcall, hreject⟩ := answered_page.mp ht
    obtain ⟨more, hscan⟩ := h.exists_continueWith_eq ht (by simpa using hfuel)
    rw [hscan]
    simp [Scan.continueWith, hcall, Scan.visit_of_rejects hreject, isLast_iff.mpr hlast]

/-- A scan is what a lazy search has done whose trace is given. -/
theorem TraceOf.continueWith_eq {scan : Scan α} (h : TraceOf listing condition first fuel scan t) :
    Scan.continueWith listing condition fuel [] [] first = scan := by
  obtain ⟨seen, asked, outcome⟩ := scan
  obtain rfl : seen = items t := h.seen
  obtain rfl : asked = calls t := h.asked
  cases outcome with
  | some outcome =>
    obtain ⟨hended, hfuel⟩ := h.ended outcome rfl
    exact hended.continueWith_eq h.answered hfuel
  | none =>
    obtain ⟨⟨call, hwalked⟩, rfl⟩ := h.goesOn rfl
    exact hwalked.continueWith_eq h.answered 0

/-! ### The trace of a scan -/

/-- Items are shown one after the other until one of them is not rejected. -/
theorem rejects_or_stops (condition : Condition α) (seen shown : List α) :
    condition.Rejects seen shown ∨ ∃ before a after, shown = before ++ a :: after ∧
      condition.Rejects seen before ∧ condition (seen ++ before) a ≠ .ok false := by
  induction shown generalizing seen with
  | nil => exact .inl trivial
  | cons a rest ih =>
    by_cases ha : condition seen a = .ok false
    · rcases ih (seen ++ [a]) with hrest | ⟨before, b, after, rfl, hbefore, hb⟩
      · exact .inl ⟨ha, hrest⟩
      · refine .inr ⟨a :: before, b, after, rfl, ⟨ha, hbefore⟩, ?_⟩
        rwa [List.append_cons]
    · exact .inr ⟨[], a, rest, rfl, trivial, by rwa [List.append_nil]⟩

/-- A search that has made a call either ends before the next one, or that one is due. -/
theorem Walked.exists_ended_or_next (h : Walked first t call)
    (ht : Answered listing condition t) : ∃ u, Answered listing condition u ∧
      (calls u).length = (calls t).length + 1 ∧
      ((∃ outcome, Ended first u outcome) ∨ ∃ next, Walked first u next) := by
  cases hcall : listing (calls t ++ [call]) with
  | error e =>
    have hevent : AnsweredAfter listing condition t (.page call (.error e)) := hcall
    exact ⟨_, answered_concat.mpr ⟨ht, hevent⟩, by simp, .inl ⟨_, .unanswered h⟩⟩
  | ok page =>
    rcases rejects_or_stops condition (items t) page.content with
      hreject | ⟨before, a, after, hpage, hreject, hstops⟩
    · refine ⟨_, answered_page.mpr ⟨ht, hcall, hreject⟩, by simp, ?_⟩
      by_cases hlast : page.content = [] ∨ page.total ≤ page.num
      · exact .inl ⟨_, .exhausted h hlast⟩
      · rw [not_or, Int.not_le] at hlast
        exact .inr ⟨_, .next h hlast.1 hlast.2⟩
    · have hanswered (answer : Except Outside Bool)
          (h : condition (items t ++ before) a = answer) : Answered listing condition
            (t ++ .page call (.ok page) :: (rejected before ++ [.item a answer])) :=
        answered_page_item.mpr ⟨ht, hcall, hreject, h⟩
      cases hanswer : condition (items t ++ before) a with
      | error e => exact ⟨_, hanswered _ hanswer, by simp, .inl ⟨_, .failed h hpage⟩⟩
      | ok answer =>
        cases answer with
        | true => exact ⟨_, hanswered _ hanswer, by simp, .inl ⟨_, .met h hpage⟩⟩
        | false => exact absurd hanswer hstops

/-- Every number of calls leads to a trace. -/
theorem exists_trace (listing : Pageable α) (condition : Condition α) (first : PageCall α)
    (fuel : Nat) : ∃ t, Answered listing condition t ∧
      ((∃ outcome, Ended first t outcome ∧ (calls t).length ≤ fuel) ∨
        ∃ call, Walked first t call ∧ (calls t).length = fuel) := by
  induction fuel with
  | zero =>
    refine ⟨[], ?_, .inr ⟨first, .first, rfl⟩⟩
    rintro before event after h
    simp at h
  | succ fuel ih =>
    obtain ⟨t, ht, ⟨outcome, hended, hfuel⟩ | ⟨call, hwalked, hfuel⟩⟩ := ih
    · exact ⟨t, ht, .inl ⟨outcome, hended, Nat.le_succ_of_le hfuel⟩⟩
    · obtain ⟨u, hu, hlength, ⟨outcome, hended⟩ | ⟨next, hnext⟩⟩ := hwalked.exists_ended_or_next ht
      · exact ⟨u, hu, .inl ⟨outcome, hended, by omega⟩⟩
      · exact ⟨u, hu, .inr ⟨next, hnext, by omega⟩⟩

theorem exists_traceOf (listing : Pageable α) (condition : Condition α) (first : PageCall α)
    (fuel : Nat) : ∃ scan t, TraceOf listing condition first fuel scan t := by
  obtain ⟨t, ht, ⟨outcome, hended, hfuel⟩ | ⟨call, hwalked, hfuel⟩⟩ :=
    exists_trace listing condition first fuel
  · refine ⟨{ seen := items t, calls := calls t, outcome := some outcome }, t, ht, rfl, rfl, ?_, ?_⟩
    · rintro _ ⟨⟩
      exact ⟨hended, hfuel⟩
    · rintro ⟨⟩
  · refine ⟨{ seen := items t, calls := calls t, outcome := none }, t, ht, rfl, rfl, ?_, ?_⟩
    · rintro _ ⟨⟩
    · rintro -
      exact ⟨⟨call, hwalked⟩, hfuel⟩

end Search

/-- A scan is a lazy search from left to right. Its trace begins with the first page. It shows the
items of a page in order, and asks for the page after it exactly if all of them have been rejected,
there are any, and the page is not the last one by its number. It ends with the first item that
meets the condition, with the first failure of the listing or the condition, which is passed on as
it is, or when a page that is empty or the last one has been rejected. -/
theorem Scan.run_eq_iff (listing : Pageable α) (condition : Condition α)
    (params : List Parameter) (pageSize : Int) (fuel : Nat) (scan : Scan α) :
    run listing condition params pageSize fuel = scan ↔
      ∃ t, Search.TraceOf listing condition (.first pageSize params) fuel scan t := by
  constructor
  · rintro rfl
    obtain ⟨scan, t, h⟩ := Search.exists_traceOf listing condition (.first pageSize params) fuel
    have hrun : run listing condition params pageSize fuel = scan := h.continueWith_eq
    exact ⟨t, hrun ▸ h⟩
  · rintro ⟨t, h⟩
    exact h.continueWith_eq

end ApiClient
