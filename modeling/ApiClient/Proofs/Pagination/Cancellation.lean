import ApiClient.Pagination.Listing
import ApiClient.Proofs.Pagination.Step

/-!
# Cancelled streams

What is left of a stream that is done. Its calls return no item, and its producer makes no call on
the listing but the first one of a walk that had not begun; with the answer to a call that is under
way the producer ends.
-/

namespace ApiClient

variable {α : Type}

/-- Whether an action cancels a stream. -/
def Action.cancels : Action → Bool
  | cancel | close _ => true
  | _ => false

namespace Stream

variable {listing : Pageable α} {first : PageCall α} {s t : Stream α} {action : Action}
  {reply : Option (Reply α)} {actions : List Action} {replies : List (Reply α)}

theorem Step.done_of_cancels (h : Step listing first s action t reply)
    (hcancels : action.cancels = true) : t.done = true := by
  cases h with
  | cancel | closeBare | close => rfl
  | _ => cases hcancels

theorem fail_producer (s : Stream α) (e : Outside) : (s.fail e).producer = .ended := by
  rcases fail_cases s e with h | ⟨failure, h⟩
  · rw [h]
  · rw [h]
    exact close_producer _

theorem fail_calls (s : Stream α) (e : Outside) : (s.fail e).calls = s.calls := by
  rcases fail_cases s e with h | ⟨failure, h⟩
  · rw [h]
  · rw [h]
    exact close_calls _

/-- With an answer, the producer of a stream that is done ends: it hands over nothing of a page that
has items, and a page without items is the last one. -/
theorem Step.ended_of_answer (h : Step listing first s .answer t reply) (hdone : s.done = true) :
    t.producer = .ended ∧ t.calls = s.calls := by
  cases h with
  | fault => exact ⟨fail_producer s _, fail_calls s _⟩
  | @page page =>
    cases hcontent : page.content with
    | cons a rest => simp only [continueWith, hdone, if_true, and_self]
    | nil =>
      have hlast : page.isLast = true := by simp [Page.isLast, hcontent]
      simp only [continueWith, hlast, if_true]
      exact ⟨close_producer s, close_calls s⟩

/-- The producer of a stream that is done calls the listing only to begin. -/
theorem Step.calls_of_done (h : Step listing first s action t reply) (hdone : s.done = true) :
    t.calls = s.calls ∨
      s.producer = .waiting ∧ t.producer = .fetching ∧ t.calls = s.calls ++ [first] := by
  cases h with
  | begin hp => exact Or.inr ⟨hp, rfl, rfl⟩
  | page hp hpage =>
    have hstep : Step listing first s .answer _ none := .page hp hpage
    exact Or.inl (hstep.ended_of_answer hdone).2
  | fault => exact Or.inl (fail_calls s _)
  | goOn _ h' | request _ h' | deliver _ _ _ h' | finish _ _ _ h' =>
    rw [hdone] at h'; cases h'
  | _ => exact Or.inl rfl

/-- A producer that has begun does not wait to begin, and one that is there does not go away. -/
theorem Step.producer_of_begun (h : Step listing first s action t reply) :
    (t.producer = .waiting → s.producer = .waiting) ∧
      (t.producer = .absent → s.producer = .absent) := by
  cases h with
  | begin hp | put hp | withdraw hp | hand hp | leave hp | killEarly hp =>
    exact ⟨fun ht => by simp [fetch] at ht, fun ht => by simp [fetch] at ht⟩
  | fault =>
    exact ⟨fun ht => by simp [fail_producer] at ht, fun ht => by simp [fail_producer] at ht⟩
  | kill => exact ⟨fun ht => by simp at ht, fun ht => by simp at ht⟩
  | page | goOn =>
    unfold continueWith
    split
    · split <;> simp
    · split <;> simp [close_producer, fetch]
  | _ => exact ⟨id, id⟩

/-- A producer that still waits to begin has made no call. -/
theorem Step.calls_of_waiting (h : Step listing first s action t reply)
    (ht : t.producer = .waiting) : t.calls = s.calls := by
  cases h with
  | begin => simp [fetch] at ht
  | page | goOn =>
    unfold continueWith at ht
    split at ht
    · split at ht <;> cases ht
    · split at ht
      · rw [close_producer] at ht; cases ht
      · cases ht
  | fault => rw [fail_producer] at ht; cases ht
  | _ => rfl

/-- A call to close a stream that has a producer returns when the producer has ended. -/
theorem Step.ended_of_closed (h : Step listing first s action t (some .closed))
    (habsent : s.producer ≠ .absent) : t.producer = .ended := by
  cases h with
  | closeBare h => exact absurd h habsent
  | settle h => exact h

/-- Cancelling a stream changes nothing but that it is done. -/
theorem Step.of_cancels (h : Step listing first s action t reply)
    (hcancels : action.cancels = true) :
    t.producer = s.producer ∧ t.calls = s.calls ∧ delivered reply.toList = [] := by
  cases h with
  | cancel | closeBare | close => exact ⟨rfl, rfl, rfl⟩
  | _ => cases hcancels

/-! ## Runs -/

/-- After the end of the producer a run makes no call on the listing. -/
theorem run?_of_ended (hs : s.producer = .ended)
    (h : s.run? listing first actions = some (t, replies)) :
    t.producer = .ended ∧ t.calls = s.calls := by
  refine run?_induction (P := fun u _ _ => u.producer = .ended ∧ u.calls = s.calls) ?_
    ⟨hs, rfl⟩ h
  intro u v action reply _ _ hu hstep
  obtain ⟨hended, hcalls⟩ := hstep.ended hu.1
  exact ⟨hended, hcalls.trans hu.2⟩

/-- In a run of a stream that is done, the producer calls the listing only to begin. -/
theorem run?_calls_of_done (hdone : s.done = true)
    (h : s.run? listing first actions = some (t, replies)) :
    t.calls = s.calls ∨ s.producer = .waiting ∧ t.calls = s.calls ++ [first] := by
  have hrun := run?_induction (P := fun u _ _ => u.done = true ∧
    (u.calls = s.calls ∧ (u.producer = .waiting → s.producer = .waiting) ∨
      s.producer = .waiting ∧ u.producer ≠ .waiting ∧ u.calls = s.calls ++ [first])) ?_
    ⟨hdone, Or.inl ⟨rfl, id⟩⟩ h
  · exact hrun.2.imp And.left fun h => ⟨h.1, h.2.2⟩
  · intro u v action reply _ _ ⟨hu, hcalls⟩ hstep
    have hwaiting := hstep.producer_of_begun.1
    refine ⟨(hstep.done hu).1, ?_⟩
    rcases hstep.calls_of_done hu with hsame | ⟨hp, hfetching, hcall⟩
    · rcases hcalls with ⟨hcalls, hw⟩ | ⟨hs, hw, hcalls⟩
      · exact Or.inl ⟨hsame.trans hcalls, fun hv => hw (hwaiting hv)⟩
      · exact Or.inr ⟨hs, fun hv => hw (hwaiting hv), hsame.trans hcalls⟩
    · rcases hcalls with ⟨hcalls, hw⟩ | ⟨hs, hw, hcalls⟩
      · exact Or.inr ⟨hw hp, by rw [hfetching]; simp, hcall.trans (by rw [hcalls])⟩
      · exact absurd hp hw

/-- From the start, the calls on the listing begin with the producer, and a stream has been closed
only if the producer has ended. -/
theorem run?_start (h : Stream.start.run? listing first actions = some (t, replies)) :
    (t.producer = .waiting → t.calls = []) ∧ (.closed ∈ replies → t.producer = .ended) := by
  have hrun := run?_induction (P := fun u _ replies => u.producer ≠ .absent ∧
    (u.producer = .waiting → u.calls = []) ∧ (.closed ∈ replies → u.producer = .ended)) ?_
    ⟨by simp [Stream.start], fun _ => rfl, by simp⟩ h
  · exact hrun.2
  · intro u v action reply _ replies ⟨habsent, hwaiting, hclosed⟩ hstep
    have hbegun := hstep.producer_of_begun
    refine ⟨fun hv => habsent (hbegun.2 hv), fun hv => ?_, fun hmem => ?_⟩
    · rcases hstep.calls_of_waiting hv with hcalls
      exact hcalls.trans (hwaiting (hbegun.1 hv))
    · rcases List.mem_append.mp hmem with hmem | hmem
      · exact (hstep.ended (hclosed hmem)).1
      · obtain rfl : reply = some .closed := by simpa using hmem
        exact hstep.ended_of_closed habsent

/-- Once a stream is cancelled or closed, no call returns an item, and the producer makes no call on
the listing unless it has made none: then it may make the first one. With the answer to a call the
producer ends and makes no further call. It has ended when a call to close the stream has
returned. -/
theorem nothing_after_cancel (listing : Pageable α) (params : List Parameter) (pageSize : Int)
    {before after : List Action} {action : Action} (hcancels : action.cancels = true)
    {s t : Stream α} {earlier replies : List (Reply α)}
    (hs : Stream.start.run? listing (.first pageSize params) before = some (s, earlier))
    (h : s.run? listing (.first pageSize params) (action :: after) = some (t, replies)) :
    delivered replies = [] ∧
    (t.calls = s.calls ∨ s.calls = [] ∧ t.calls = [.first pageSize params]) ∧
    (∀ mid later, after = mid ++ .answer :: later → ∃ u more,
      s.run? listing (.first pageSize params) (action :: mid) = some (u, more) ∧
        t.producer = .ended ∧ t.calls = u.calls) ∧
    (.closed ∈ earlier ++ replies → t.producer = .ended) := by
  have hall : Stream.start.run? listing (.first pageSize params) (before ++ action :: after) =
      some (t, earlier ++ replies) := run?_append.mpr ⟨s, earlier, replies, hs, h, rfl⟩
  obtain ⟨c, reply, rest, hc, hrest, rfl⟩ := run?_cons.mp h
  have hstep := Step.of_step? hc
  have hdone := hstep.done_of_cancels hcancels
  obtain ⟨hproducer, hcalls, hreply⟩ := hstep.of_cancels hcancels
  refine ⟨?_, ?_, fun mid later hafter => ?_, (run?_start hall).2⟩
  · rw [delivered_append, hreply, (run?_of_done hdone hrest).2]; rfl
  · rw [← hcalls]
    refine (run?_calls_of_done hdone hrest).imp_right fun ⟨hwaiting, hcall⟩ => ?_
    have hnil := (run?_start hs).1 (hproducer ▸ hwaiting)
    rw [hcalls, hnil] at hcall ⊢
    exact ⟨rfl, hcall⟩
  · subst hafter
    obtain ⟨u, first, last, hu, hlast, rfl⟩ := run?_append.mp hrest
    obtain ⟨v, reply', last', hv, ht, rfl⟩ := run?_cons.mp hlast
    obtain ⟨hended, hsame⟩ := (Step.of_step? hv).ended_of_answer (run?_of_done hdone hu).1
    obtain ⟨hended', hsame'⟩ := run?_of_ended hended ht
    exact ⟨u, _, run?_cons.mpr ⟨c, reply, first, hc, hu, rfl⟩, hended', hsame'.trans hsame⟩

/-- A stream of two pages that is closed while the second one is fetched and a call waits. -/
theorem nothing_after_cancel_of_fetch :
    let listing : Pageable Nat := .ofGet (Listing.getItems [7, 8])
    let before : List Action := [.begin, .answer, .request 0, .put, .take 0, .return 0, .proceed,
      .proceed, .request 1]
    let after : List Action := [.answer, .return 1, .settle 2]
    ∃ s t, Action.cancels (.close 2) = true ∧
      Stream.start.run? listing (.first 1 []) before = some (s, [.item 7]) ∧
      s.run? listing (.first 1 []) (.close 2 :: after) = some (t, [.finished, .closed]) ∧
      t.producer = .ended ∧ t.calls = s.calls := by
  intro listing before after
  have h := nothing_after_cancel listing [] 1 (rfl : Action.cancels (.close 2) = true)
    (rfl : Stream.start.run? listing (.first 1 []) before = some (_, [.item 7]))
    (rfl : Stream.run? listing _ _ (.close 2 :: after) = some (_, [.finished, .closed]))
  exact ⟨_, _, rfl, rfl, rfl, h.2.2.2 (by decide), h.2.1.resolve_right (by decide)⟩

end Stream

end ApiClient
