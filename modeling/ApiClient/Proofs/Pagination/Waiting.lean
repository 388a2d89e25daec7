import ApiClient.Proofs.Pagination.Delivery
import Mathlib.Data.List.Nodup

/-!
# Calls that wait

A stream does not stand still while a call waits for an item, unless the producer was stopped or an
offer was lost with a call that was given up. `Balanced` says that what is not acknowledged is in
flight or lost; so when the producer waits for a consumer, there is something for a call to take or
to return. `distance` bounds the steps that producer and calls take by themselves until a call
returns.
-/

namespace ApiClient

variable {α : Type}

namespace Action

/-- Whether an action gives up a call. -/
def interrupts : Action → Bool
  | interrupt _ => true
  | _ => false

/-- Whether an action is a step that the producer or a waiting call takes by itself. -/
def advances : Action → Bool
  | begin | answer | put | proceed | take _ | «return» _ => true
  | kill | request _ | interrupt _ | cancel | close _ | settle _ => false

end Action

namespace Stream

/-- The producer waits for a consumer: for room in the queue, or for its item to be acknowledged. -/
def ProducerWaits (s : Stream α) : Prop :=
  match s.producer with
  | .offering .. => capacity ≤ s.queue.length
  | .handing .. => s.unacknowledged ≠ 0
  | _ => False

/-- A call waits for the producer: it has taken nothing, and there is nothing to take. -/
def CallWaits (s : Stream α) (k : Taker α) : Prop :=
  k.taken = none ∧ s.queue = []

/-- Whether an action gives up a call that has taken an offer, which is lost with it, while the
stream is not done. -/
def loses (s : Stream α) : Action → Bool
  | .interrupt id => !s.done && ((s.taker? id).bind Taker.taken).isSome
  | _ => false

/-- Whether an offer is lost in a run. -/
def losesIn (listing : Pageable α) (first : PageCall α) (s : Stream α) : List Action → Bool
  | [] => false
  | action :: rest =>
    s.loses action ||
      match s.step? listing first action with
      | some (t, _) => losesIn listing first t rest
      | none => false

/-- What is not acknowledged is in flight, but for an offer that is lost. -/
def Balanced (s : Stream α) (lost : Bool) : Prop :=
  s.done = false → s.unacknowledged = s.inFlight.length + lost.toNat

/-- There is a producer, and once it has ended its last word is acknowledged only by the end of the
stream. -/
def Fed (s : Stream α) : Prop :=
  s.producer ≠ .absent ∧ (s.producer = .ended → s.done = false → s.unacknowledged ≠ 0)

variable {listing : Pageable α} {first : PageCall α} {s t : Stream α} {action : Action}
  {reply : Option (Reply α)} {items : List α} {lost stopped : Bool}

/-! ## What is in flight -/

theorem taker?_of_mem (hs : s.Sound) {k : Taker α} (h : k ∈ s.takers) :
    s.taker? k.id = some k := by
  have hsome : (s.taker? k.id).isSome := List.find?_isSome.mpr ⟨k, h, by simp⟩
  obtain ⟨j, hj⟩ := Option.isSome_iff_exists.mp hsome
  obtain ⟨hmem, hid⟩ := mem_takers_of_taker? hj
  rw [hj, List.inj_on_of_nodup_map hs.ids hmem h hid]

theorem inFlight_dismiss_of_none (hs : s.Sound) {id : Nat} {k : Taker α}
    (hk : s.taker? id = some k) (hnone : k.taken = none) :
    (s.dismiss id).inFlight = s.inFlight := by
  obtain ⟨hmem, hid⟩ := mem_takers_of_taker? hk
  unfold inFlight dismiss
  rw [List.filterMap_filter]
  refine congrArg _ (List.filterMap_congr fun j hj => ?_)
  by_cases hji : j.id = id
  · have hjk : j = k := List.inj_on_of_nodup_map hs.ids hj hmem (hji.trans hid.symm)
    rw [hjk, hnone, ite_self]
  · rw [if_pos (by simpa using hji)]

theorem mem_inFlight_taken {id : Nat} {k : Taker α} {offer : Offer α} {queue : List (Offer α)}
    (hk : s.taker? id = some k) :
    offer ∈ Stream.inFlight { s with
      queue
      takers := s.takers.map fun t =>
        if t.id = id then { t with taken := some offer } else t } := by
  obtain ⟨hmem, hid⟩ := mem_takers_of_taker? hk
  refine List.mem_append_right _ (List.mem_filterMap.mpr ⟨{ k with taken := some offer }, ?_, rfl⟩)
  exact List.mem_map.mpr ⟨k, hmem, if_pos hid⟩

/-! ## What is not acknowledged -/

theorem Balanced.start : (Stream.start : Stream α).Balanced false := fun _ => rfl

theorem Balanced.close (h : s.Balanced lost) : s.close.Balanced lost := by
  cases hdone : s.done with
  | true =>
    rw [close_of_done hdone]
    exact h
  | false =>
    rw [close_of_open hdone]
    intro _
    have hs := h hdone
    simp only [inFlight, push, List.length_append, List.length_singleton] at hs ⊢
    omega

theorem Balanced.continueWith (h : s.Balanced lost) (rest : List α) (page : Page α) :
    (s.continueWith rest page).Balanced lost := by
  unfold Stream.continueWith
  split
  · split <;> exact h
  · split
    · exact h.close
    · exact h

theorem Balanced.fail (h : s.Balanced lost) (e : Outside) : (s.fail e).Balanced lost := by
  rcases fail_cases s e with hfail | ⟨failure, hfail⟩
  · rw [hfail]
    exact fun hdone => by cases hdone
  · rw [hfail]
    exact Balanced.close h

/-- Every step keeps the balance unless it gives up a call. -/
theorem Balanced.keep (h : s.Balanced lost) (hs : s.Sound)
    (hstep : Step listing first s action t reply) (hkeeps : action.interrupts = false) :
    t.Balanced lost := by
  have hsound := hs.step hstep
  have hone := hs.unacknowledged_le
  cases hstep with
  | interrupt => cases hkeeps
  | page => exact h.continueWith _ _
  | fault => exact h.fail _
  | goOn => exact h.continueWith _ _
  | put =>
    intro hdone
    have hbalance := h hdone
    simp only [inFlight, push, List.length_append, List.length_singleton] at hbalance ⊢
    omega
  | request =>
    intro hdone
    simpa [inFlight] using h hdone
  | @take id k offer queue hk hqueue =>
    intro hdone
    -- the offer was the only one in flight, and it still is
    have hbalance := h hdone
    have hbefore : 0 < s.inFlight.length :=
      List.length_pos_of_mem (List.mem_append_left _ (hqueue ▸ List.mem_cons_self))
    have hafter := List.length_pos_of_mem (@mem_inFlight_taken _ s id _ offer queue hk)
    have hle := hsound.inFlight_le
    simp only at hle ⊢
    omega
  | deliver hk htaken hn =>
    intro hdone
    have hbalance := h hdone
    have hlt := inFlight_dismiss_lt hk htaken
    simp only [inFlight] at hbalance hlt ⊢
    omega
  | finish | kill | cancel | closeBare | close => exact fun hdone => by cases hdone
  | refuse hd | release _ hd | withdraw _ hd | leave _ hd =>
    exact fun hdone => absurd (hd.symm.trans hdone) (by simp)
  | begin | hand | killEarly | settle => exact h

theorem loses_of_keeps (s : Stream α) (h : action.interrupts = false) : s.loses action = false := by
  cases action with
  | interrupt => cases h
  | _ => rfl

/-- Every step keeps the balance, except that an offer may be lost. -/
theorem Balanced.step (h : s.Balanced lost) (hs : s.Sound)
    (hstep : Step listing first s action t reply) : t.Balanced (lost || s.loses action) := by
  cases hkeeps : action.interrupts with
  | false =>
    rw [s.loses_of_keeps hkeeps, Bool.or_false]
    exact h.keep hs hstep hkeeps
  | true =>
    cases hstep with
    | @interrupt id k hk =>
      intro hdone
      have hdone : s.done = false := hdone
      have hbalance := h hdone
      have hloses : s.loses (.interrupt id) = k.taken.isSome := by
        simp only [loses, hk, hdone, Bool.not_false, Bool.true_and, Option.bind_some]
      rw [hloses]
      cases htaken : k.taken with
      | none =>
        rw [inFlight_dismiss_of_none hs hk htaken, Option.isSome_none, Bool.or_false]
        exact hbalance
      | some offer =>
        have hlt := inFlight_dismiss_lt hk htaken
        have hone := hs.unacknowledged_le
        have hsame : (s.dismiss id).unacknowledged = s.unacknowledged := rfl
        rw [Option.isSome_some, Bool.or_true, Bool.toNat_true, hsame]
        omega
    | _ => cases hkeeps

theorem Balanced.run {actions : List Action} {replies : List (Reply α)} (h : s.Balanced lost)
    (hs : s.Sound) (hrun : s.run? listing first actions = some (t, replies)) :
    t.Balanced (lost || s.losesIn listing first actions) := by
  induction actions generalizing s lost replies with
  | nil =>
    simp only [run?, Option.some.injEq, Prod.mk.injEq] at hrun
    rw [losesIn, Bool.or_false, ← hrun.1]
    exact h
  | cons action rest ih =>
    obtain ⟨u, reply, more, hu, hmore, -⟩ := run?_cons.mp hrun
    have hstep := Step.of_step? hu
    simpa [losesIn, hu, Bool.or_assoc] using ih (h.step hs hstep) (hs.step hstep) hmore

/-- No offer is lost if no call is given up. -/
theorem losesIn_eq_false {actions : List Action}
    (h : ∀ action ∈ actions, action.interrupts = false) :
    s.losesIn listing first actions = false := by
  induction actions generalizing s with
  | nil => rfl
  | cons action rest ih =>
    obtain ⟨haction, hrest⟩ := List.forall_mem_cons.mp h
    rw [losesIn, s.loses_of_keeps haction, Bool.false_or]
    split
    · exact ih hrest
    · rfl

/-! ## The producer's last word -/

theorem fed_close (s : Stream α) : s.close.Fed := by
  refine ⟨by rw [close_producer]; simp, fun _ hdone => ?_⟩
  rw [close_done] at hdone
  rw [close_of_open hdone]
  exact Nat.succ_ne_zero _

theorem fed_continueWith (s : Stream α) (rest : List α) (page : Page α) :
    (s.continueWith rest page).Fed := by
  unfold continueWith
  split
  · split
    · rename_i hdone
      exact ⟨by simp, fun _ h => absurd (hdone.symm.trans h) (by simp)⟩
    · exact ⟨by simp, fun h => by cases h⟩
  · split
    · exact fed_close s
    · exact ⟨by simp [fetch], fun h => by cases h⟩

theorem fed_fail (s : Stream α) (e : Outside) : (s.fail e).Fed := by
  rcases fail_cases s e with h | ⟨failure, h⟩
  · rw [h]
    exact ⟨by simp, fun _ h => by cases h⟩
  · rw [h]
    exact fed_close _

/-- Unless the producer is stopped, its last word is acknowledged only by the end of the stream. -/
theorem Fed.step (h : s.Fed) (hd : Delivering listing first s items stopped)
    (hstep : Step listing first s action t reply) (hkill : action ≠ .kill) : t.Fed := by
  cases hstep with
  | page => exact fed_continueWith s _ _
  | goOn => exact fed_continueWith s _ _
  | fault => exact fed_fail s _
  | killEarly | kill => exact absurd rfl hkill
  | withdraw _ hdone | leave _ hdone =>
    exact ⟨by simp, fun _ h => absurd (hdone.symm.trans h) (by simp)⟩
  | begin => exact ⟨by simp [fetch], fun h => by cases h⟩
  | put | hand => exact ⟨by simp, fun h => by cases h⟩
  | deliver hk htaken hn hdone =>
    refine ⟨h.1, fun hended _ => ?_⟩
    -- what is in flight of a producer that has ended is its last word, and no item
    have hended : s.producer = .ended := hended
    have hprogress := hd.progress hdone
    simp only [Progress, hended] at hprogress
    rcases hprogress with ⟨hnone, -⟩ | ⟨-, hall⟩
    · omega
    · exact absurd (hall _ (mem_inFlight_of_taken hk htaken)) (by simp)
  | finish | cancel | closeBare | close => exact ⟨h.1, fun _ h => by cases h⟩
  | refuse | request | take | release | interrupt | settle => exact h

/-- A stream whose producer has not been stopped and that has lost no offer. -/
structure Serving (listing : Pageable α) (first : PageCall α) (s : Stream α) : Prop where
  /-- It delivers the items of a walk. -/
  delivering : ∃ items stopped, Delivering listing first s items stopped
  /-- What is not acknowledged is in flight. -/
  balanced : s.Balanced false
  /-- The producer's last word is acknowledged only by the end of the stream. -/
  fed : s.Fed

theorem Serving.step (h : s.Serving listing first) (hstep : Step listing first s action t reply)
    (hkill : action ≠ .kill) (hkeeps : s.loses action = false) : t.Serving listing first := by
  obtain ⟨items, stopped, hd⟩ := h.delivering
  have hbalanced := h.balanced.step hd.sound hstep
  rw [hkeeps, Bool.or_false] at hbalanced
  exact ⟨⟨_, _, hd.step hstep⟩, hbalanced, h.fed.step hd hstep hkill⟩

theorem Serving.start : (Stream.start : Stream α).Serving listing first :=
  ⟨⟨_, _, .start⟩, .start, by simp [Stream.start], fun h => by cases h⟩

theorem Serving.run {actions : List Action} {replies : List (Reply α)} (h : s.Serving listing first)
    (hrun : s.run? listing first actions = some (t, replies))
    (hkill : ∀ action ∈ actions, action ≠ .kill)
    (hkeeps : s.losesIn listing first actions = false) : t.Serving listing first := by
  induction actions generalizing s replies with
  | nil =>
    simp only [run?, Option.some.injEq, Prod.mk.injEq] at hrun
    exact hrun.1 ▸ h
  | cons action rest ih =>
    obtain ⟨u, reply, more, hu, hmore, -⟩ := run?_cons.mp hrun
    obtain ⟨haction, hrest⟩ := List.forall_mem_cons.mp hkill
    rw [losesIn, hu, Bool.or_eq_false_iff] at hkeeps
    exact ih (h.step (.of_step? hu) haction hkeeps.1) hmore hrest hkeeps.2

/-! ## No standstill -/

/-- A step that puts an offer into the queue finds room there. -/
theorem Step.room (h : Step listing first s action t reply) (hs : s.Sound)
    (hmore : s.queue.length < t.queue.length) : s.queue.length < capacity := by
  have hempty : s.producer.rests = true ∨ s.unacknowledged = 0 → s.queue.length < capacity := by
    intro hrests
    have hnone := hs.inFlight_eq_nil (hrests.elim hs.rests id)
    rw [(List.append_eq_nil_iff.mp hnone).1]
    exact Nat.one_pos
  cases h with
  | put _ hqueue => exact hqueue
  | page hp | fault hp => exact hempty (Or.inl (by rw [hp]; rfl))
  | goOn _ _ hu => exact hempty (Or.inr hu)
  | take _ hqueue =>
    rw [hqueue] at hmore
    simp only [List.length_cons] at hmore
    omega
  | _ => exact absurd hmore (Nat.lt_irrefl _)

/-- If no offer is lost, the producer and the calls do not all wait for each other. -/
theorem Balanced.not_all_wait (h : s.Balanced false) (hdone : s.done = false)
    (hproducer : s.ProducerWaits) (hsome : s.takers ≠ []) : ¬ ∀ k ∈ s.takers, s.CallWaits k := by
  intro hall
  obtain ⟨k, hk⟩ := List.exists_mem_of_ne_nil _ hsome
  have hqueue : s.queue = [] := (hall k hk).2
  have htaken : s.takers.filterMap Taker.taken = [] :=
    List.filterMap_eq_nil_iff.mpr fun j hj => (hall j hj).1
  have hbalance := h hdone
  rw [inFlight, hqueue, htaken] at hbalance
  unfold ProducerWaits at hproducer
  split at hproducer
  · rw [hqueue] at hproducer
    exact Nat.not_succ_le_zero 0 hproducer
  · exact hproducer hbalance
  · exact hproducer

/-- A call that has taken an offer can return, as what it has taken is not acknowledged. -/
theorem Sound.isSome_return (hs : s.Sound) {id : Nat} {k : Taker α} {offer : Offer α}
    (hk : s.taker? id = some k) (htaken : k.taken = some offer) (hdone : s.done = false) :
    (s.step? listing first (.return id)).isSome := by
  have hlt := inFlight_dismiss_lt hk htaken
  have hle := hs.inFlight_le
  obtain ⟨n, hn⟩ : ∃ n, s.unacknowledged = n + 1 := ⟨s.unacknowledged - 1, by omega⟩
  cases offer <;> simp [step?, hk, hdone, htaken, hn]

/-- While a call waits, it can go on, or another call, or the producer. -/
theorem Serving.exists_step (h : s.Serving listing first) (hsome : s.takers ≠ []) :
    ∃ action, action.advances = true ∧ (s.step? listing first action).isSome := by
  obtain ⟨items, stopped, hd⟩ := h.delivering
  have hs := hd.sound
  obtain ⟨k, hk⟩ := List.exists_mem_of_ne_nil _ hsome
  have htaker := taker?_of_mem hs hk
  cases hdone : s.done with
  | true => exact ⟨.return k.id, rfl, by simp [step?, htaker, hdone]⟩
  | false =>
    have hcount := h.balanced hdone
    cases hqueue : s.queue with
    -- an offer in the queue is for the call, unless that has one
    | cons offer queue =>
      cases htaken : k.taken with
      | none =>
        obtain ⟨id, taken⟩ := k
        obtain rfl : taken = none := htaken
        exact ⟨.take id, rfl, by simp only [step?, htaker, hqueue, Option.isSome_some]⟩
      | some o => exact ⟨.return k.id, rfl, hs.isSome_return htaker htaken hdone⟩
    | nil =>
      by_cases hflight : s.inFlight = []
      -- nothing is in flight, so the producer has nothing to wait for
      · rw [hflight] at hcount
        have hcount : s.unacknowledged = 0 := hcount
        cases hp : s.producer with
        | absent => exact absurd hp h.fed.1
        | ended => exact absurd hcount (h.fed.2 hp hdone)
        | waiting => exact ⟨.begin, rfl, by simp [step?, hp]⟩
        | fetching =>
          refine ⟨.answer, rfl, ?_⟩
          cases hanswer : listing s.calls <;> simp [step?, hp, hanswer]
        | offering a rest page =>
          exact ⟨.put, rfl, by simp [step?, hp, hqueue, capacity]⟩
        | offered rest page => exact ⟨.proceed, rfl, by simp [step?, hp]⟩
        | handing rest page => exact ⟨.proceed, rfl, by simp [step?, hp, hdone, hcount]⟩
      · obtain ⟨o, ho⟩ := List.exists_mem_of_ne_nil _ hflight
        rw [inFlight, hqueue, List.nil_append] at ho
        obtain ⟨j, hj, htaken⟩ := List.mem_filterMap.mp ho
        exact ⟨.return j.id, rfl, hs.isSome_return (taker?_of_mem hs hj) htaken hdone⟩

/-! ## How long a call waits -/

/-- The most steps that the producer and the calls take by themselves before a call returns. -/
def distance (s : Stream α) : Nat :=
  s.queue.length +
    match s.producer with
    | .absent | .ended => 0
    | .waiting => 6
    | .fetching => 5
    | .offering .. => 4
    | .offered .. => if s.unacknowledged = 0 then 7 else 2
    | .handing .. => if s.unacknowledged = 0 then 6 else 1

theorem distance_close_le (s : Stream α) : s.close.distance ≤ s.queue.length + 1 := by
  cases hdone : s.done with
  | true =>
    rw [close_of_done hdone]
    exact Nat.le_succ _
  | false =>
    rw [close_of_open hdone]
    simp [distance, push]

/-- A producer that goes on fetches a page at most, and only after it has left one behind. -/
theorem distance_continueWith_le (s : Stream α) (rest : List α) (page : Page α) :
    (s.continueWith rest page).distance ≤ s.queue.length + 5 ∧
      (rest = page.content → (s.continueWith rest page).distance ≤ s.queue.length + 4) := by
  unfold continueWith
  split
  · split
    · simp only [distance]; omega
    · simp only [distance]; omega
  · split
    · have := distance_close_le s; omega
    · rename_i hlast
      refine ⟨by simp only [distance, fetch]; omega, fun hempty => absurd ?_ hlast⟩
      simp [Page.isLast, ← hempty]

theorem distance_fail_le (s : Stream α) (e : Outside) :
    (s.fail e).distance ≤ s.queue.length + 1 := by
  rcases fail_cases s e with h | ⟨failure, h⟩
  · rw [h]
    exact Nat.le_succ _
  · rw [h]
    exact distance_close_le _

/-- Every step by which no call returns brings one nearer. -/
theorem Step.distance_lt (h : Step listing first s action t none)
    (hadvances : action.advances = true) : t.distance < s.distance := by
  cases h with
  | begin hp => simp only [distance, fetch, hp]; omega
  | @page page hp =>
    have hle := (distance_continueWith_le s page.content page).2 rfl
    simp only [distance, hp] at hle ⊢
    omega
  | @fault e hp =>
    have hle := distance_fail_le s e
    simp only [distance, hp] at hle ⊢
    omega
  | put hp =>
    simp only [distance, push, hp, List.length_append, List.length_singleton, if_neg
      (Nat.succ_ne_zero _)]
    omega
  | withdraw hp => simp only [distance, hp]; omega
  | hand hp => simp only [distance, hp]; split <;> omega
  | leave hp => simp only [distance, hp]; split <;> omega
  | @goOn rest page hp _ hu =>
    have hle := (distance_continueWith_le s rest page).1
    simp only [distance, hp, hu, if_true] at hle ⊢
    omega
  | take _ hqueue => simp only [distance, hqueue, List.length_cons]; omega
  | _ => cases hadvances

theorem length_add_distance_le {later : List Action}
    (h : s.run? listing first later = some (t, []))
    (hadvances : ∀ action ∈ later, action.advances = true) :
    later.length + t.distance ≤ s.distance := by
  induction later generalizing s with
  | nil =>
    simp only [run?, Option.some.injEq, Prod.mk.injEq] at h
    obtain ⟨rfl, -⟩ := h
    exact Nat.le_of_eq (Nat.zero_add _)
  | cons action rest ih =>
    obtain ⟨u, reply, more, hu, hmore, hnone⟩ := run?_cons.mp h
    obtain ⟨hreply, rfl⟩ := List.append_eq_nil_iff.mp hnone.symm
    obtain rfl : reply = none := by cases reply <;> simp at hreply ⊢
    obtain ⟨haction, hrest⟩ := List.forall_mem_cons.mp hadvances
    have hlt := (Step.of_step? hu).distance_lt haction
    have hle := ih hmore hrest
    rw [List.length_cons]
    omega

theorem Sound.distance_le (hs : s.Sound) : s.distance ≤ 7 := by
  have hle := hs.inFlight_le
  have hone := hs.unacknowledged_le
  have hrests := hs.rests
  simp only [inFlight, List.length_append] at hle
  unfold distance
  cases hp : s.producer <;> simp only [hp, Producer.rests] at hrests ⊢ <;> grind

/-! ## The hand-over -/

/-- In every run one offer at most is put into the queue and not acknowledged. What is put there
finds room, the word that no item follows included, and what a call has taken is not acknowledged
yet. If no call is given up, then as long as the stream is not done, the producer does not wait for
a consumer while the calls wait for the producer. If the producer is not stopped either, then
whatever steps the producer and the calls take while a call waits, one of them can go on until a
call returns, which is after eight steps at the latest. -/
theorem handover_never_stuck (listing : Pageable α) (params : List Parameter) (pageSize : Int)
    {actions : List Action} {t : Stream α} {replies : List (Reply α)}
    (h : Stream.start.run? listing (.first pageSize params) actions = some (t, replies)) :
    t.unacknowledged ≤ 1 ∧
    (∀ action u reply, t.step? listing (.first pageSize params) action = some (u, reply) →
      t.queue.length < u.queue.length → t.queue.length < capacity) ∧
    (∀ k ∈ t.takers, k.taken ≠ none → t.unacknowledged ≠ 0) ∧
    ((∀ action ∈ actions, action.interrupts = false) →
      (t.done = false → t.ProducerWaits → t.takers ≠ [] → ¬ ∀ k ∈ t.takers, t.CallWaits k) ∧
      ((∀ action ∈ actions, action ≠ .kill) → t.takers ≠ [] →
        (∃ action, action.advances = true ∧
          (t.step? listing (.first pageSize params) action).isSome) ∧
        ∀ later u, (∀ action ∈ later, action.advances = true) →
          t.run? listing (.first pageSize params) later = some (u, []) → later.length ≤ 7)) := by
  have hs := (Delivering.run h).sound
  refine ⟨hs.unacknowledged_le, fun action u reply hu hmore => ?_, fun k hk hsome => ?_,
    fun hinterrupts => ⟨fun hdone hproducer hsome => ?_, fun hkill hsome => ⟨?_, ?_⟩⟩⟩
  · exact (Step.of_step? hu).room hs hmore
  · obtain ⟨offer, hoffer⟩ := Option.ne_none_iff_exists'.mp hsome
    have hlt := inFlight_dismiss_lt (taker?_of_mem hs hk) hoffer
    have hle := hs.inFlight_le
    omega
  · have hbalanced := Balanced.start.run .start h
    rw [losesIn_eq_false hinterrupts, Bool.or_false] at hbalanced
    exact hbalanced.not_all_wait hdone hproducer hsome
  · exact (Serving.start.run h hkill (losesIn_eq_false hinterrupts)).exists_step hsome
  · intro later u hadvances hrun
    have hle := length_add_distance_le hrun hadvances
    have hseven := hs.distance_le
    omega

/-- A producer that waits for the acknowledgement of an item, which the only call has taken. -/
theorem handover_never_stuck_of_join :
    let listing : Pageable Nat := .ofGet (Listing.getItems [7, 8])
    let actions : List Action := [.begin, .answer, .request 0, .put, .proceed, .take 0]
    let page : Page Nat := { num := 1, size := 1, total := 2, content := [7], options := [] }
    let t : Stream Nat := {
      queue := [], unacknowledged := 1, done := false, failure := none
      producer := .handing [] page, takers := [{ id := 0, taken := some (.item 7) }], closers := []
      calls := [.first 1 []] }
    Stream.start.run? listing (.first 1 []) actions = some (t, []) ∧
      (∀ action ∈ actions, action.interrupts = false ∧ action ≠ .kill) ∧ t.ProducerWaits ∧
      (¬ ∀ k ∈ t.takers, t.CallWaits k) ∧
      ∃ action, action.advances = true ∧ (t.step? listing (.first 1 []) action).isSome := by
  intro listing actions page t
  have hactions : ∀ action ∈ actions, action.interrupts = false ∧ action ≠ .kill := by decide
  have hrun : Stream.start.run? listing (.first 1 []) actions = some (t, []) := rfl
  have hwaits : t.ProducerWaits := Nat.one_ne_zero
  have h := (handover_never_stuck listing [] 1 hrun).2.2.2 fun action ha => (hactions action ha).1
  exact ⟨hrun, hactions, hwaits, h.1 rfl hwaits (List.cons_ne_nil _ _),
    (h.2 (fun action ha => (hactions action ha).2) (List.cons_ne_nil _ _)).1⟩

end Stream

end ApiClient
