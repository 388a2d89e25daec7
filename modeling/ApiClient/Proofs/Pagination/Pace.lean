import ApiClient.Proofs.Pagination.Cancellation
import ApiClient.Proofs.Pagination.Delivery

/-!
# The pace of a stream

A stream fetches no page ahead of its consumers. `Paced` says that the items of all pages behind the
walk have been returned, in every state; a page is asked for in the step in which these are all the
items that have been returned so far.
-/

namespace ApiClient

variable {α : Type}

namespace Stream

variable {listing : Pageable α} {first : PageCall α} {s t : Stream α} {action : Action}
  {reply : Option (Reply α)} {items : List α} {stopped : Bool}

/-- A stream that has returned `items` has returned all that was visited before its last call. -/
structure Paced (listing : Pageable α) (first : PageCall α) (s : Stream α) (items : List α) :
    Prop where
  /-- Nothing is returned before the producer begins. -/
  waiting : s.producer = .waiting → s.calls = [] ∧ items = []
  /-- What the walk has visited is returned. -/
  returned : s.calls = [] ∨ ∃ seen, Asked listing first seen s.calls ∧ seen <+: items

/-- A producer that goes on makes a call only after the last item of a page. -/
theorem continueWith_calls (s : Stream α) (rest : List α) (page : Page α) :
    (s.continueWith rest page).calls = s.calls ∨
      rest = [] ∧ page.isLast = false ∧ s.continueWith rest page = s.fetch (.next page) := by
  cases rest with
  | cons a rest =>
    left
    unfold continueWith
    dsimp only
    split <;> rfl
  | nil =>
    cases hlast : page.isLast with
    | true =>
      left
      rw [continueWith, if_pos hlast]
      exact close_calls s
    | false =>
      right
      refine ⟨rfl, rfl, ?_⟩
      rw [continueWith, if_neg (by simp [hlast])]

/-- The producer makes a call to begin, or after the last item of a page has been acknowledged. -/
theorem Step.fetches (h : Step listing first s action t reply) (hcalls : t.calls ≠ s.calls) :
    reply = none ∧ t.producer = .fetching ∧
      (s.producer = .waiting ∧ t.calls = s.calls ++ [first] ∨
        t.done = false ∧ s.unacknowledged = 0 ∧ ∃ call, t.calls = s.calls ++ [call]) := by
  cases h with
  | begin hp => exact ⟨rfl, rfl, Or.inl ⟨hp, rfl⟩⟩
  | @page page hp =>
    rcases continueWith_calls s page.content page with hsame | ⟨hempty, hlast, -⟩
    · exact absurd hsame hcalls
    · -- a page without items is the last one
      simp [Page.isLast, hempty] at hlast
  | @goOn rest page hp hdone hacknowledged =>
    rcases continueWith_calls s rest page with hsame | ⟨-, -, hfetch⟩
    · exact absurd hsame hcalls
    · rw [hfetch]
      exact ⟨rfl, rfl, Or.inr ⟨hdone, hacknowledged, _, rfl⟩⟩
  | fault => exact absurd (fail_calls s _) hcalls
  | _ => exact absurd rfl hcalls

theorem Paced.start : Paced listing first (Stream.start : Stream α) [] where
  waiting _ := ⟨rfl, rfl⟩
  returned := Or.inl rfl

/-- A call of the producer is made when all that the walk has visited is returned. -/
theorem Paced.asked (h : Paced listing first s items)
    (hd : Delivering listing first t (items ++ delivered reply.toList) stopped)
    (hstep : Step listing first s action t reply) (hcalls : t.calls ≠ s.calls) :
    Asked listing first items t.calls := by
  obtain ⟨rfl, hfetching, hbegins | ⟨hdone, -⟩⟩ := hstep.fetches hcalls
  · obtain ⟨hp, hfirst⟩ := hbegins
    obtain ⟨hnone, rfl⟩ := h.waiting hp
    rw [hfirst, hnone]
    exact .first
  · have hprogress := hd.progress hdone
    unfold Progress at hprogress
    rw [hfetching] at hprogress
    exact (List.append_nil items) ▸ hprogress

/-- Every step keeps a stream paced. -/
theorem Paced.step (h : Paced listing first s items) (hs : s.Sound)
    (hd : Delivering listing first t (items ++ delivered reply.toList) stopped)
    (hstep : Step listing first s action t reply) :
    Paced listing first t (items ++ delivered reply.toList) := by
  refine ⟨fun hwaiting => ?_, ?_⟩
  · have hp := hstep.producer_of_begun.1 hwaiting
    obtain ⟨hnone, rfl⟩ := h.waiting hp
    refine ⟨(hstep.calls_of_waiting hwaiting).trans hnone, ?_⟩
    have hacknowledged := hs.rests (by rw [hp]; rfl)
    cases hstep with
    | deliver _ _ hn => omega
    | _ => rfl
  · by_cases hcalls : t.calls = s.calls
    · rw [hcalls]
      rcases h.returned with hnone | ⟨seen, hasked, hseen⟩
      · exact Or.inl hnone
      · exact Or.inr ⟨seen, hasked, hseen.trans (List.prefix_append _ _)⟩
    · exact Or.inr ⟨items, h.asked hd hstep hcalls, List.prefix_append _ _⟩

theorem Paced.run {actions : List Action} {replies : List (Reply α)}
    (h : Stream.start.run? listing first actions = some (t, replies)) :
    Paced listing first t (delivered replies) := by
  refine Delivering.induction (P := fun u _ replies =>
    Paced listing first u (delivered replies)) ?_ .start h
  intro u v action reply actions replies hu hpaced hstep
  rw [delivered_append]
  exact hpaced.step hu.sound (hu.step hstep) hstep

/-! ## No page is fetched ahead -/

/-- In every run the items of all pages behind the walk have been returned, so that items of one
page at most are still to be taken, and there is at most one call more than there are pages whose
items were all taken. When the producer asks for a page, nothing is unacknowledged, and what has
been returned are the items of the pages before it. -/
theorem nothing_prefetched (listing : Pageable α) (params : List Parameter) (pageSize : Int)
    {actions : List Action} {t : Stream α} {replies : List (Reply α)}
    (h : Stream.start.run? listing (.first pageSize params) actions = some (t, replies)) :
    (∃ pages, (t.calls = [] ∧ pages = [] ∨
        Behind listing (.first pageSize params) t.calls pages) ∧
      pages.flatMap Page.content <+: delivered replies ∧ t.calls.length ≤ pages.length + 1) ∧
    ∀ action u reply, t.step? listing (.first pageSize params) action = some (u, reply) →
      u.calls ≠ t.calls → ∃ call pages, u.calls = t.calls ++ [call] ∧ t.unacknowledged = 0 ∧
        Behind listing (.first pageSize params) u.calls pages ∧
        delivered replies = pages.flatMap Page.content := by
  have hpaced := Paced.run h
  have hdelivering := Delivering.run h
  refine ⟨?_, fun action u reply hu hcalls => ?_⟩
  · rcases hpaced.returned with hnone | ⟨seen, hasked, hseen⟩
    · exact ⟨[], Or.inl ⟨hnone, rfl⟩, List.nil_prefix, by simp [hnone]⟩
    · obtain ⟨pages, hbehind, rfl⟩ := hasked.exists_behind
      exact ⟨pages, Or.inr hbehind, hseen, Nat.le_of_eq hbehind.length_eq⟩
  · have hstep := Step.of_step? hu
    have hasked := hpaced.asked (hdelivering.step hstep) hstep hcalls
    obtain ⟨pages, hbehind, hitems⟩ := hasked.exists_behind
    obtain ⟨-, -, ⟨hp, hcall⟩ | ⟨-, hacknowledged, call, hcall⟩⟩ := hstep.fetches hcalls
    · exact ⟨_, pages, hcall, hdelivering.sound.rests (by rw [hp]; rfl), hbehind, hitems⟩
    · exact ⟨call, pages, hcall, hacknowledged, hbehind, hitems⟩

/-- The second page is asked for when the item of the first one has been returned. -/
theorem nothing_prefetched_of_second_page :
    let listing : Pageable Nat := .ofGet (Listing.getItems [7, 8])
    let actions : List Action :=
      [.begin, .answer, .request 0, .put, .take 0, .return 0, .request 1, .proceed]
    ∃ t u, Stream.start.run? listing (.first 1 []) actions = some (t, [.item 7]) ∧
      t.step? listing (.first 1 []) .proceed = some (u, none) ∧ u.calls ≠ t.calls ∧
      ∃ pages, Behind listing (.first 1 []) u.calls pages ∧ [7] = pages.flatMap Page.content := by
  intro listing actions
  refine ⟨_, _, rfl, rfl, by decide, ?_⟩
  have hrun : Stream.start.run? listing (.first 1 []) actions = some (_, [.item 7]) := rfl
  obtain ⟨call, pages, -, -, hbehind, hitems⟩ :=
    (nothing_prefetched listing [] 1 hrun).2 .proceed _ none rfl (by decide)
  exact ⟨pages, hbehind, hitems⟩

end Stream

end ApiClient
