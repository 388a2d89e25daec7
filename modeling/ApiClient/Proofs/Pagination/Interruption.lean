import ApiClient.Proofs.Pagination.Waiting
import Mathlib.Data.Fintype.EquivFin

/-!
# Calls that are given up

A call that is given up before it has taken an offer leaves the stream as it was. If it has taken
one, the offer is lost, and the stream is stuck: what is lost is never acknowledged, so the producer
goes on no further, and no call returns an item or the end.
-/

namespace ApiClient

variable {α : Type}

namespace Stream

/-- Something is not acknowledged, and no call has it or can take it. -/
structure Stuck (s : Stream α) : Prop where
  /-- The stream is not done. -/
  notDone : s.done = false
  /-- Nothing is in flight. -/
  inFlight : s.inFlight = []
  /-- Something is not acknowledged. -/
  unacknowledged : s.unacknowledged ≠ 0

variable {listing : Pageable α} {first : PageCall α} {s t : Stream α} {action : Action}
  {reply : Option (Reply α)} {actions : List Action} {replies : List (Reply α)}

/-! ## Nothing comes of a lost offer -/

theorem Stuck.of_lost (h : s.Balanced true) (hs : s.Sound) (hdone : s.done = false) : s.Stuck := by
  have hbalance := h hdone
  have hone := hs.unacknowledged_le
  rw [Bool.toNat_true] at hbalance
  exact ⟨hdone, List.length_eq_zero_iff.mp (by omega), by omega⟩

/-- No step that leaves the stream running gets it out of being stuck. -/
theorem Stuck.step (h : s.Stuck) (hs : s.Sound) (hstep : Step listing first s action t reply)
    (hstops : action.stops = false) :
    t.Stuck ∧ t.calls = s.calls ∧ delivered reply.toList = [] ∧ reply ≠ some .finished := by
  obtain ⟨hdone, hflight, hu⟩ := h
  have hrests : ¬ s.producer.rests = true := fun h => hu (hs.rests h)
  have hnotaken : ∀ {id : Nat} {k : Taker α} {offer : Offer α}, s.taker? id = some k →
      k.taken ≠ some offer := by
    intro id k offer hk htaken
    have hmem := mem_inFlight_of_taken hk htaken
    rw [hflight] at hmem
    cases hmem
  cases hstep with
  | begin hp | page hp | fault hp | put hp | withdraw hp | killEarly hp =>
    exact absurd (by rw [hp]; rfl) hrests
  | hand => exact ⟨⟨hdone, hflight, hu⟩, rfl, rfl, by simp⟩
  | goOn _ _ hzero => exact absurd hzero hu
  | leave _ hdone' | refuse hdone' | release _ hdone' =>
    exact absurd (hdone.symm.trans hdone') (by simp)
  | request =>
    exact ⟨⟨hdone, by simpa [Stream.inFlight] using hflight, hu⟩, rfl, rfl, by simp⟩
  | take _ hqueue =>
    rw [Stream.inFlight, hqueue] at hflight
    cases hflight
  | deliver hk htaken | finish hk htaken => exact absurd htaken (hnotaken hk)
  | @interrupt id k hk =>
    have hsub := inFlight_dismiss_sublist s id
    rw [hflight] at hsub
    exact ⟨⟨hdone, List.sublist_nil.mp hsub, hu⟩, rfl, rfl, by simp⟩
  | settle => exact ⟨⟨hdone, hflight, hu⟩, rfl, rfl, by simp⟩
  | kill | cancel | closeBare | close => cases hstops

theorem Stuck.run (h : s.Stuck) (hs : s.Sound)
    (hrun : s.run? listing first actions = some (t, replies))
    (hstops : ∀ action ∈ actions, action.stops = false) :
    t.Stuck ∧ t.calls = s.calls ∧ delivered replies = [] ∧ .finished ∉ replies := by
  induction actions generalizing s replies with
  | nil =>
    simp only [run?, Option.some.injEq, Prod.mk.injEq] at hrun
    obtain ⟨rfl, rfl⟩ := hrun
    exact ⟨h, rfl, rfl, by simp⟩
  | cons action rest ih =>
    obtain ⟨u, reply, more, hu, hmore, rfl⟩ := run?_cons.mp hrun
    obtain ⟨haction, hrest⟩ := List.forall_mem_cons.mp hstops
    have hstep := Step.of_step? hu
    obtain ⟨hstuck, hcalls, hnone, hfinished⟩ := h.step hs hstep haction
    obtain ⟨hstuck', hcalls', hnone', hfinished'⟩ := ih hstuck (hs.step hstep) hmore hrest
    refine ⟨hstuck', hcalls'.trans hcalls, by rw [delivered_append, hnone, hnone']; rfl, ?_⟩
    rw [List.mem_append, not_or]
    exact ⟨by simpa [eq_comm] using hfinished, hfinished'⟩

/-- A run in which an offer is lost, and that nobody stops, ends in a stream that is stuck. -/
theorem stuck_of_losesIn (hs : s.Sound) (hbalanced : s.Balanced false)
    (hrun : s.run? listing first actions = some (t, replies))
    (hstops : ∀ action ∈ actions, action.stops = false)
    (hlost : s.losesIn listing first actions = true) : t.Stuck := by
  induction actions generalizing s replies with
  | nil => cases hlost
  | cons action rest ih =>
    obtain ⟨u, reply, more, hu, hmore, rfl⟩ := run?_cons.mp hrun
    obtain ⟨haction, hrest⟩ := List.forall_mem_cons.mp hstops
    have hstep := Step.of_step? hu
    have hbalanced' := hbalanced.step hs hstep
    simp only [losesIn, hu] at hlost
    cases hloses : s.loses action with
    | false =>
      rw [hloses] at hlost hbalanced'
      exact ih (hs.step hstep) hbalanced' hmore hrest hlost
    | true =>
      rw [hloses] at hbalanced'
      have hopen : u.done = false := by
        cases hstep with
        | interrupt =>
          rw [loses, Bool.and_eq_true, Bool.not_eq_true'] at hloses
          exact hloses.1
        | _ => cases hloses
      exact ((Stuck.of_lost hbalanced' (hs.step hstep) hopen).run (hs.step hstep) hmore hrest).1

/-! ## Nothing else keeps a call waiting -/

theorem close_takers (s : Stream α) : s.close.takers = s.takers := by
  cases hdone : s.done with
  | true => rw [close_of_done hdone]
  | false => rw [close_of_open hdone]; rfl

theorem continueWith_takers (s : Stream α) (rest : List α) (page : Page α) :
    (s.continueWith rest page).takers = s.takers := by
  unfold continueWith
  split
  · split <;> rfl
  · split
    · exact close_takers s
    · rfl

theorem fail_takers (s : Stream α) (e : Outside) : (s.fail e).takers = s.takers := by
  rcases fail_cases s e with h | ⟨failure, h⟩
  · rw [h]
  · rw [h]
    exact close_takers _

/-- A step by which no call returns leaves the calls that wait. -/
theorem Step.takers_ne_nil (h : Step listing first s action t none)
    (hadvances : action.advances = true) (hsome : s.takers ≠ []) : t.takers ≠ [] := by
  cases h with
  | page => rwa [continueWith_takers]
  | goOn => rwa [continueWith_takers]
  | fault => rwa [fail_takers]
  | begin | put | withdraw | hand | leave => exact hsome
  | take => simpa using hsome
  | _ => cases hadvances

/-- A call that returns by itself returns an item or the end. -/
theorem Step.reply_of_advances {r : Reply α} (h : Step listing first s action t (some r))
    (hadvances : action.advances = true) : delivered [r] ≠ [] ∨ r = .finished := by
  cases h with
  | deliver => exact Or.inl (by simp [delivered, Reply.item?])
  | release | finish => exact Or.inr rfl
  | _ => cases hadvances

theorem stops_of_advances (h : action.advances = true) :
    action.stops = false ∧ action ≠ .kill ∧ s.loses action = false := by
  cases action with
  | begin | answer | put | proceed | take | «return» => exact ⟨rfl, by simp, rfl⟩
  | _ => cases h

/-- As long as nothing is lost, a call that waits can return an item or the end. -/
theorem Serving.exists_return (h : s.Serving listing first) (hsome : s.takers ≠ []) :
    ∃ later t replies, (∀ action ∈ later, action.stops = false) ∧
      s.run? listing first later = some (t, replies) ∧
        (delivered replies ≠ [] ∨ .finished ∈ replies) := by
  induction hn : s.distance using Nat.strongRecOn generalizing s with
  | ind n ih =>
    obtain ⟨action, hadvances, hpossible⟩ := h.exists_step hsome
    obtain ⟨⟨u, reply⟩, hu⟩ := Option.isSome_iff_exists.mp hpossible
    obtain ⟨hstops, hkill, hkeeps⟩ := stops_of_advances (s := s) hadvances
    have hstep := Step.of_step? hu
    cases reply with
    | some r =>
      refine ⟨[action], u, [r], by simpa using hstops,
        run?_cons.mpr ⟨u, some r, [], hu, rfl, rfl⟩, ?_⟩
      exact (hstep.reply_of_advances hadvances).imp_right fun hr => by simp [hr]
    | none =>
      obtain ⟨later, t, replies, hlater, hrun, hreturns⟩ :=
        ih u.distance (hn ▸ hstep.distance_lt hadvances) (h.step hstep hkill hkeeps)
          (hstep.takers_ne_nil hadvances hsome) rfl
      exact ⟨action :: later, t, replies, List.forall_mem_cons.mpr ⟨hstops, hlater⟩,
        run?_cons.mpr ⟨u, none, replies, hu, hrun, rfl⟩, hreturns⟩

/-- As long as nothing is lost, a new call can return an item or the end. -/
theorem Serving.exists_return_of_request (h : s.Serving listing first) :
    ∃ later t replies, (∀ action ∈ later, action.stops = false) ∧
      s.run? listing first later = some (t, replies) ∧
        (delivered replies ≠ [] ∨ .finished ∈ replies) := by
  obtain ⟨id, hid⟩ : ∃ id, s.taker? id = none := by
    obtain ⟨id, hid⟩ := Infinite.exists_notMem_finset (s.takers.map Taker.id).toFinset
    refine ⟨id, List.find?_eq_none.mpr fun k hk hkid => hid ?_⟩
    rw [List.mem_toFinset]
    exact List.mem_map.mpr ⟨k, hk, by simpa using hkid⟩
  cases hdone : s.done with
  | true =>
    exact ⟨[.request id], s, [.finished], by simp [Action.stops],
      run?_cons.mpr ⟨s, _, [], request_of_done hdone hid, rfl, rfl⟩, Or.inr (by simp)⟩
  | false =>
    obtain ⟨u, hu⟩ : ∃ u : Stream α, u = { s with takers := s.takers ++ [{ id, taken := none }] } :=
      ⟨_, rfl⟩
    have hrequest : s.step? listing first (.request id) = some (u, none) := by
      simp [step?, hid, hdone, hu]
    obtain ⟨later, t, replies, hlater, hrun, hreturns⟩ :=
      (h.step (.of_step? hrequest) (by simp) rfl).exists_return (by simp [hu])
    exact ⟨.request id :: later, t, replies, List.forall_mem_cons.mpr ⟨rfl, hlater⟩,
      run?_cons.mpr ⟨u, none, replies, hrequest, hrun, rfl⟩, hreturns⟩

/-! ## Delivery -/

/-- Calls may be given up at any moment: the items that the others return are still the first that a
walk visits, and all of them if a call has found the end. Nothing more is returned and nothing more
is fetched, whatever happens short of stopping the stream, if and only if a call was given up that
had taken an offer. Otherwise, whatever steps the producer and the calls take while a call waits,
one of them can go on until a call returns, which is after eight steps at the latest. -/
theorem delivery_ends_iff_lost (listing : Pageable α) (params : List Parameter) (pageSize : Int)
    {actions : List Action} {t : Stream α} {replies : List (Reply α)}
    (h : Stream.start.run? listing (.first pageSize params) actions = some (t, replies))
    (hstops : ∀ action ∈ actions, action.stops = false) :
    (∃ fuel, delivered replies <+:
      (Scan.run listing Condition.never params pageSize fuel).seen) ∧
    (.finished ∈ replies → ∃ fuel outcome, Scan.run listing Condition.never params pageSize fuel =
      { seen := delivered replies, calls := t.calls, outcome := some outcome }) ∧
    ((∀ later u more, (∀ action ∈ later, action.stops = false) →
        t.run? listing (.first pageSize params) later = some (u, more) →
          delivered more = [] ∧ .finished ∉ more ∧ u.calls = t.calls) ↔
      Stream.start.losesIn listing (.first pageSize params) actions = true) ∧
    (Stream.start.losesIn listing (.first pageSize params) actions = false → t.takers ≠ [] →
      (∃ action, action.advances = true ∧
        (t.step? listing (.first pageSize params) action).isSome) ∧
      ∀ later u, (∀ action ∈ later, action.advances = true) →
        t.run? listing (.first pageSize params) later = some (u, []) → later.length ≤ 7) := by
  have hdelivering := Delivering.run h
  have hserving : Stream.start.losesIn listing (.first pageSize params) actions = false →
      t.Serving listing (.first pageSize params) :=
    Serving.start.run h fun action ha hkill => by
      have hstop := hstops action ha
      rw [hkill] at hstop
      cases hstop
  refine ⟨hdelivering.visited, fun hfinished => ?_, ⟨fun hends => ?_, fun hlost => ?_⟩,
    fun hkeeps hsome => ⟨(hserving hkeeps).exists_step hsome, fun later u hadvances hrun => ?_⟩⟩
  · have hstops : actions.any Action.stops = false := by simpa using hstops
    exact (hdelivering.complete (run?_done_of_finished h hfinished) hstops).2
  · cases hkeeps : Stream.start.losesIn listing (.first pageSize params) actions with
    | true => rfl
    | false =>
      obtain ⟨later, u, more, hlater, hrun, hreturns⟩ :=
        (hserving hkeeps).exists_return_of_request
      obtain ⟨hnone, hfinished, -⟩ := hends later u more hlater hrun
      exact absurd hreturns (by simp [hnone, hfinished])
  · intro later u more hlater hrun
    have hstuck := stuck_of_losesIn .start .start h hstops hlost
    obtain ⟨-, hcalls, hnone, hfinished⟩ := hstuck.run hdelivering.sound hrun hlater
    exact ⟨hnone, hfinished, hcalls⟩
  · have hle := length_add_distance_le hrun hadvances
    have hseven := hdelivering.sound.distance_le
    omega

/-- A call is given up right after it has taken the first of two items; the next call waits in vain.
Had the first one been given up before, the second one would go on. -/
theorem delivery_ends_of_taken_item :
    let listing : Pageable Nat := .ofGet (Listing.getItems [7, 8])
    let lost : List Action :=
      [.begin, .answer, .request 0, .put, .proceed, .take 0, .interrupt 0, .request 1]
    let kept : List Action :=
      [.begin, .answer, .request 0, .put, .proceed, .interrupt 0, .request 1]
    ∃ t u, Stream.start.run? listing (.first 1 []) lost = some (t, [.interrupted]) ∧
      Stream.start.run? listing (.first 1 []) kept = some (u, [.interrupted]) ∧
      (∀ action ∈ lost ++ kept, action.stops = false) ∧
      (∀ later v more, (∀ action ∈ later, action.stops = false) →
        t.run? listing (.first 1 []) later = some (v, more) → delivered more = []) ∧
      ∃ action, action.advances = true ∧ (u.step? listing (.first 1 []) action).isSome := by
  intro listing lost kept
  have hstops : ∀ action ∈ lost ++ kept, action.stops = false := by decide
  have hlost := delivery_ends_iff_lost listing [] 1
    (rfl : Stream.start.run? listing (.first 1 []) lost = some (_, [.interrupted]))
    fun action ha => hstops action (List.mem_append_left _ ha)
  have hkept := delivery_ends_iff_lost listing [] 1
    (rfl : Stream.start.run? listing (.first 1 []) kept = some (_, [.interrupted]))
    fun action ha => hstops action (List.mem_append_right _ ha)
  refine ⟨_, _, rfl, rfl, hstops, fun later v more hlater hrun => ?_, ?_⟩
  · exact (hlost.2.2.1.mpr (by decide) later v more hlater hrun).1
  · exact (hkept.2.2.2 (by decide) (List.cons_ne_nil _ _)).1

end Stream

end ApiClient
