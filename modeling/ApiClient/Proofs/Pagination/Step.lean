import ApiClient.Pagination.Stream

/-!
# Steps and runs of a stream

What one step of a stream can do, as a relation with one case for each outcome. Every invariant of a
stream is proved over these cases, and `run?_induction` carries it from steps to runs.
-/

namespace ApiClient

variable {α : Type}

/-- The item of a reply. -/
def Reply.item? : Reply α → Option α
  | item a => some a
  | finished | interrupted | closed => none

/-- The items that were returned, in order. -/
def delivered (replies : List (Reply α)) : List α :=
  replies.filterMap Reply.item?

@[simp] theorem delivered_append (xs ys : List (Reply α)) :
    delivered (xs ++ ys) = delivered xs ++ delivered ys :=
  List.filterMap_append

@[simp] theorem delivered_nil : delivered ([] : List (Reply α)) = [] := rfl

namespace Stream

theorem close_of_done {s : Stream α} (h : s.done = true) :
    s.close = { s with producer := .ended } := by
  simp [close, h]

theorem close_of_open {s : Stream α} (h : s.done = false) :
    s.close = { s.push .closing with producer := .ended } := by
  simp [close, push, h]

theorem close_done (s : Stream α) : s.close.done = s.done := by
  cases hdone : s.done with
  | true => rw [close_of_done hdone]; exact hdone
  | false => rw [close_of_open hdone]; exact hdone

theorem close_producer (s : Stream α) : s.close.producer = .ended := by
  cases hdone : s.done with
  | true => rw [close_of_done hdone]
  | false => rw [close_of_open hdone]

theorem close_calls (s : Stream α) : s.close.calls = s.calls := by
  cases hdone : s.done with
  | true => rw [close_of_done hdone]
  | false => rw [close_of_open hdone]; rfl

/-- The outcomes of a step: `Step listing first s action t reply` says that `action` leads from `s`
to `t`, and what the call that returned in it, if any, returned. -/
inductive Step (listing : Pageable α) (first : PageCall α) (s : Stream α) :
    Action → Stream α → Option (Reply α) → Prop where
  /-- The producer makes its first call. -/
  | begin (h : s.producer = .waiting) : Step listing first s .begin (s.fetch first) none
  /-- The listing answers with a page. -/
  | page {page : Page α} (h : s.producer = .fetching) (hpage : listing s.calls = .ok page) :
      Step listing first s .answer (s.continueWith page.content page) none
  /-- The listing fails. -/
  | fault {e : Outside} (h : s.producer = .fetching) (he : listing s.calls = .error e) :
      Step listing first s .answer (s.fail e) none
  /-- An item gets into the queue. -/
  | put {a : α} {rest : List α} {page : Page α} (h : s.producer = .offering a rest page)
      (hqueue : s.queue.length < capacity) :
      Step listing first s .put { s.push (.item a) with producer := .offered rest page } none
  /-- The producer gives up an item, as the stream is done. -/
  | withdraw {a : α} {rest : List α} {page : Page α} (h : s.producer = .offering a rest page)
      (hdone : s.done = true) : Step listing first s .proceed { s with producer := .ended } none
  /-- The producer begins to wait for an acknowledgement. -/
  | hand {rest : List α} {page : Page α} (h : s.producer = .offered rest page) :
      Step listing first s .proceed { s with producer := .handing rest page } none
  /-- The producer no longer waits for an acknowledgement, as the stream is done. -/
  | leave {rest : List α} {page : Page α} (h : s.producer = .handing rest page)
      (hdone : s.done = true) : Step listing first s .proceed { s with producer := .ended } none
  /-- The producer goes on after an acknowledgement. -/
  | goOn {rest : List α} {page : Page α} (h : s.producer = .handing rest page)
      (hdone : s.done = false) (hacknowledged : s.unacknowledged = 0) :
      Step listing first s .proceed (s.continueWith rest page) none
  /-- The producer is stopped before it has begun. -/
  | killEarly (h : s.producer = .waiting) :
      Step listing first s .kill { s with producer := .ended } none
  /-- The producer is stopped. -/
  | kill (habsent : s.producer ≠ .absent) :
      Step listing first s .kill { s with producer := .ended, done := true } none
  /-- A call finds the stream done. -/
  | refuse {id : Nat} (hdone : s.done = true) :
      Step listing first s (.request id) s (some .finished)
  /-- A call begins to wait. -/
  | request {id : Nat} (hid : s.taker? id = none) (hdone : s.done = false) :
      Step listing first s (.request id)
        { s with takers := s.takers ++ [{ id, taken := none }] } none
  /-- A call takes an offer. -/
  | take {id : Nat} {k : Nat} {offer : Offer α} {queue : List (Offer α)}
      (ht : s.taker? id = some { id := k, taken := none }) (hqueue : s.queue = offer :: queue) :
      Step listing first s (.take id)
        { s with
          queue
          takers := s.takers.map fun t => if t.id = id then { t with taken := some offer } else t }
        none
  /-- A call that has waited finds the stream done. -/
  | release {id : Nat} {t : Taker α} (ht : s.taker? id = some t) (hdone : s.done = true) :
      Step listing first s (.return id) (s.dismiss id) (some .finished)
  /-- A call returns the item that it has taken, and acknowledges it. -/
  | deliver {id n : Nat} {a : α} {t : Taker α} (ht : s.taker? id = some t)
      (htaken : t.taken = some (.item a)) (hn : s.unacknowledged = n + 1)
      (hdone : s.done = false) :
      Step listing first s (.return id) { s.dismiss id with unacknowledged := n } (some (.item a))
  /-- A call has taken the word that no item follows. -/
  | finish {id n : Nat} {t : Taker α} (ht : s.taker? id = some t)
      (htaken : t.taken = some .closing) (hn : s.unacknowledged = n + 1) (hdone : s.done = false) :
      Step listing first s (.return id) { s.dismiss id with unacknowledged := n, done := true }
        (some .finished)
  /-- A call is given up. -/
  | interrupt {id : Nat} {t : Taker α} (ht : s.taker? id = some t) :
      Step listing first s (.interrupt id) (s.dismiss id) (some .interrupted)
  /-- The stream is cancelled. -/
  | cancel : Step listing first s .cancel { s with done := true } none
  /-- A stream without a producer is closed. -/
  | closeBare {id : Nat} (h : s.producer = .absent) :
      Step listing first s (.close id) { s with done := true } (some .closed)
  /-- A call to close the stream begins to wait. -/
  | close {id : Nat} :
      Step listing first s (.close id) { s with done := true, closers := s.closers ++ [id] } none
  /-- A call to close the stream returns. -/
  | settle {id : Nat} (h : s.producer = .ended) :
      Step listing first s (.settle id) { s with closers := s.closers.erase id } (some .closed)

variable {listing : Pageable α} {first : PageCall α} {s t : Stream α} {action : Action}
  {reply : Option (Reply α)}

/-- Every step has one of the outcomes of `Step`. -/
theorem Step.of_step? (h : s.step? listing first action = some (t, reply)) :
    Step listing first s action t reply := by
  cases action with
  | begin =>
    simp only [step?] at h
    split at h
    · rename_i hp; cases h; exact .begin hp
    · cases h
  | answer =>
    simp only [step?] at h
    split at h
    · rename_i hp
      split at h
      · rename_i page hpage; cases h; exact .page hp hpage
      · rename_i e he; cases h; exact .fault hp he
    · cases h
  | put =>
    simp only [step?] at h
    split at h
    · rename_i hp
      split at h
      · rename_i hq; cases h; exact .put hp hq
      · cases h
    · cases h
  | proceed =>
    simp only [step?] at h
    split at h
    · rename_i hp
      split at h
      · rename_i hd; cases h; exact .withdraw hp hd
      · cases h
    · rename_i hp; cases h; exact .hand hp
    · rename_i hp
      split at h
      · rename_i hd; cases h; exact .leave hp hd
      · rename_i hd
        split at h
        · rename_i hu; cases h; exact .goOn hp (by simpa using hd) hu
        · cases h
    · cases h
  | kill =>
    simp only [step?] at h
    split at h
    · cases h
    · cases h
    · rename_i hp; cases h; exact .killEarly hp
    · rename_i hp _ _; cases h; exact .kill hp
  | request id =>
    simp only [step?] at h
    split at h
    · cases h
    · rename_i hid
      split at h
      · rename_i hd; cases h; exact .refuse hd
      · rename_i hd; cases h; exact .request (by simpa using hid) (by simpa using hd)
  | take id =>
    simp only [step?] at h
    split at h
    · rename_i ht hq; cases h; exact .take ht hq
    · cases h
  | «return» id =>
    simp only [step?] at h
    split at h
    · cases h
    · rename_i taker ht
      split at h
      · rename_i hd; cases h; exact .release ht hd
      · rename_i hd
        have hd : s.done = false := by simpa using hd
        split at h
        · rename_i htaken hn; cases h; exact .deliver ht htaken hn hd
        · rename_i htaken hn; cases h; exact .finish ht htaken hn hd
        · cases h
  | interrupt id =>
    simp only [step?] at h
    split at h
    · cases h
    · rename_i ht; cases h; exact .interrupt ht
  | cancel => cases h; exact .cancel
  | close id =>
    simp only [step?] at h
    split at h
    · rename_i hp; cases h; exact .closeBare hp
    · split at h
      · cases h
      · cases h; exact .close
  | settle id =>
    simp only [step?] at h
    split at h
    · rename_i hp
      split at h
      · cases h; exact .settle hp
      · cases h
    · cases h

/-- The producer does nothing after it has ended. -/
theorem Step.ended (h : Step listing first s action t reply) (hs : s.producer = .ended) :
    t.producer = .ended ∧ t.calls = s.calls := by
  cases h with
  | begin hp | page hp | fault hp | put hp | withdraw hp | hand hp | leave hp | goOn hp
  | killEarly hp | closeBare hp => rw [hs] at hp; cases hp
  | kill => exact ⟨rfl, rfl⟩
  | _ => exact ⟨hs, rfl⟩

theorem continueWith_of_done (hdone : s.done = true) (rest : List α) (page : Page α) :
    (s.continueWith rest page).done = true := by
  unfold continueWith
  split
  · split <;> exact hdone
  · split
    · exact (close_done s).trans hdone
    · exact hdone

/-- What a failure of the listing makes of a stream: it is done at once, or it is closed with what
it keeps. -/
theorem fail_cases (s : Stream α) (e : Outside) :
    s.fail e = { s with done := true, producer := .ended } ∨
      ∃ failure, s.fail e = { s with failure }.close := by
  unfold fail
  split
  · exact .inl rfl
  · exact .inr ⟨s.failure, rfl⟩
  · split
    · exact .inr ⟨some e, rfl⟩
    · exact .inr ⟨s.failure, rfl⟩

theorem fail_of_done (hdone : s.done = true) (e : Outside) : (s.fail e).done = true := by
  rcases fail_cases s e with h | ⟨failure, h⟩
  · rw [h]
  · rw [h]
    exact (close_done _).trans hdone

/-- A stream that is done stays done, and its calls return no item. -/
theorem Step.done (h : Step listing first s action t reply) (hdone : s.done = true) :
    t.done = true ∧ delivered reply.toList = [] := by
  cases h with
  | page => exact ⟨continueWith_of_done hdone _ _, rfl⟩
  | fault => exact ⟨fail_of_done hdone _, rfl⟩
  | goOn _ h' | request _ h' | deliver _ _ _ h' | finish _ _ _ h' =>
    rw [hdone] at h'; cases h'
  | kill | cancel | closeBare | close => exact ⟨rfl, rfl⟩
  | _ => exact ⟨hdone, rfl⟩

/-- The step in which a stream becomes done returns no item. -/
theorem Step.delivered_eq_nil (h : Step listing first s action t reply) (hs : s.done = false)
    (ht : t.done = true) : delivered reply.toList = [] := by
  cases h with
  | deliver => exact absurd (hs.symm.trans ht) (by simp)
  | _ => rfl

/-! ## Runs -/

theorem run?_cons {rest : List Action} {replies : List (Reply α)} :
    s.run? listing first (action :: rest) = some (t, replies) ↔
      ∃ u reply more, s.step? listing first action = some (u, reply) ∧
        u.run? listing first rest = some (t, more) ∧ replies = reply.toList ++ more := by
  simp only [run?, Option.bind_eq_bind, Option.bind_eq_some_iff, Prod.exists, Option.pure_def,
    Option.some.injEq, Prod.mk.injEq]
  constructor
  · rintro ⟨u, reply, hstep, v, more, hrun, rfl, rfl⟩
    exact ⟨u, reply, more, hstep, hrun, rfl⟩
  · rintro ⟨u, reply, more, hstep, hrun, rfl⟩
    exact ⟨u, reply, hstep, t, more, hrun, rfl, rfl⟩

theorem run?_append {before after : List Action} {replies : List (Reply α)} :
    s.run? listing first (before ++ after) = some (t, replies) ↔
      ∃ u earlier later, s.run? listing first before = some (u, earlier) ∧
        u.run? listing first after = some (t, later) ∧ replies = earlier ++ later := by
  induction before generalizing s replies with
  | nil =>
    constructor
    · intro h
      exact ⟨s, [], replies, rfl, h, rfl⟩
    · rintro ⟨u, earlier, later, hu, ht, rfl⟩
      simp only [run?, Option.some.injEq, Prod.mk.injEq] at hu
      obtain ⟨rfl, rfl⟩ := hu
      exact ht
  | cons action rest ih =>
    rw [List.cons_append, run?_cons]
    constructor
    · rintro ⟨u, reply, more, hstep, hrun, rfl⟩
      obtain ⟨v, earlier, later, hv, ht, rfl⟩ := ih.mp hrun
      exact ⟨v, reply.toList ++ earlier, later, run?_cons.mpr ⟨u, reply, earlier, hstep, hv, rfl⟩,
        ht, by rw [List.append_assoc]⟩
    · rintro ⟨v, earlier, later, hv, ht, rfl⟩
      obtain ⟨u, reply, more, hstep, hrun, rfl⟩ := run?_cons.mp hv
      exact ⟨u, reply, more ++ later, hstep, ih.mpr ⟨v, more, later, hrun, ht, rfl⟩,
        by rw [List.append_assoc]⟩

/-- What holds at the beginning and is kept by every step holds after every run. `P` speaks of the
stream, the actions so far and what was returned in them. -/
theorem run?_induction {P : Stream α → List Action → List (Reply α) → Prop}
    (hstep : ∀ {u v : Stream α} {action : Action} {reply : Option (Reply α)}
      {actions : List Action} {replies : List (Reply α)}, P u actions replies →
      Step listing first u action v reply → P v (actions ++ [action]) (replies ++ reply.toList))
    {actions : List Action} {replies : List (Reply α)} (hs : P s [] [])
    (h : s.run? listing first actions = some (t, replies)) : P t actions replies := by
  suffices hgen : ∀ before earlier, P s before earlier →
      P t (before ++ actions) (earlier ++ replies) from hgen [] [] hs
  clear hs
  induction actions generalizing s replies with
  | nil =>
    intro before earlier hs
    simp only [run?, Option.some.injEq, Prod.mk.injEq] at h
    obtain ⟨rfl, rfl⟩ := h
    simpa using hs
  | cons action rest ih =>
    intro before earlier hs
    obtain ⟨u, reply, more, hu, hrun, rfl⟩ := run?_cons.mp h
    have := ih hrun _ _ (hstep hs (.of_step? hu))
    simpa [List.append_assoc] using this

/-- A stream at whose end a call has found nothing is done. -/
theorem Step.done_of_finished (h : Step listing first s action t (some .finished)) :
    t.done = true := by
  cases h with
  | refuse hdone => exact hdone
  | release _ hdone => exact hdone
  | finish => rfl

/-- After a call that found the stream at its end, the stream is done. -/
theorem run?_done_of_finished {actions : List Action} {replies : List (Reply α)}
    (h : s.run? listing first actions = some (t, replies)) (hmem : .finished ∈ replies) :
    t.done = true := by
  refine run?_induction (P := fun u _ replies => .finished ∈ replies → u.done = true) ?_
    (by simp) h hmem
  intro u v action reply _ replies hu hstep hmem
  rcases List.mem_append.mp hmem with hmem | hmem
  · exact (hstep.done (hu hmem)).1
  · obtain rfl : reply = some .finished := by simpa using hmem
    exact hstep.done_of_finished

/-- From a stream that is done, every run leads to one that is done, and returns no item. -/
theorem run?_of_done {actions : List Action} {replies : List (Reply α)} (hdone : s.done = true)
    (h : s.run? listing first actions = some (t, replies)) :
    t.done = true ∧ delivered replies = [] := by
  refine run?_induction (P := fun u _ replies => u.done = true ∧ delivered replies = []) ?_
    ⟨hdone, rfl⟩ h
  intro u v action reply _ replies hu hstep
  obtain ⟨hdone', hnone⟩ := hstep.done hu.1
  exact ⟨hdone', by rw [delivered_append, hu.2, hnone]; rfl⟩

theorem request_of_done (hdone : s.done = true) {id : Nat} (hid : s.taker? id = none) :
    s.step? listing first (.request id) = some (s, some .finished) := by
  simp [step?, hid, hdone]

end Stream

end ApiClient
