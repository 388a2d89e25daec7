import ApiClient.Proofs.Pagination.Pace

/-!
# Failures of a streamed listing

A stream keeps the failure that ended its listing, and keeps none if the listing is exhausted.
`Telling` says so of every state: a producer that has ended by itself has come to the last page, or
its last call failed. Three failures are not kept, so that a listing that fails with one looks like
an exhausted one (`Stream.failure_told_iff`): one that means "stop", which makes the stream done,
one that means "nothing found", which is also how a walk ends, and one that has no text to be
logged.
-/

namespace ApiClient

variable {α : Type}

/-- A failure of its listing that a stream keeps: it means neither "stop" nor "nothing found", and
its text can be had. -/
structure Outside.IsKept (e : Outside) : Prop where
  /-- It does not mean "stop". -/
  cancelled : e.kind ≠ .cancelled
  /-- It does not mean "nothing found". -/
  neverMet : e.kind ≠ .neverMet
  /-- It has a wording. -/
  worded : e.textFailure = none

theorem Outside.wording_cases (e : Outside) :
    e.textFailure = none ∧ e.wording = .ok e.message ∨
      e.textFailure ≠ none ∧ ∃ f, e.wording = .error f := by
  unfold wording
  cases e.textFailure with
  | none => exact .inl ⟨rfl, rfl⟩
  | some f => exact .inr ⟨nofun, _, rfl⟩

theorem Page.isLast_iff_total_le {page : Page α} :
    page.isLast = true ↔ page.content = [] ∨ page.total ≤ page.num := by
  simp [Page.isLast, Page.hasNext]

namespace Stream

variable {listing : Pageable α} {first : PageCall α} {s t : Stream α} {action : Action}
  {reply : Option (Reply α)} {items : List α} {stopped : Bool}

/-! ## What a step keeps of a failure -/

theorem close_failure (s : Stream α) : s.close.failure = s.failure := by
  cases hdone : s.done with
  | true => rw [close_of_done hdone]
  | false => rw [close_of_open hdone]; rfl

theorem continueWith_failure (s : Stream α) (rest : List α) (page : Page α) :
    (s.continueWith rest page).failure = s.failure := by
  unfold continueWith
  split
  · split <;> rfl
  · split
    · exact close_failure s
    · rfl

/-- A failure of the listing is kept as it is, or nothing is. -/
theorem fail_failure (hnone : s.failure = none) (e : Outside) :
    e.IsKept ∧ (s.fail e).failure = some e ∨ ¬ e.IsKept ∧ (s.fail e).failure = none := by
  unfold fail
  split
  · rename_i hkind
    exact .inr ⟨fun h => h.cancelled hkind, hnone⟩
  · rename_i hkind
    exact .inr ⟨fun h => h.neverMet hkind, (close_failure s).trans hnone⟩
  · rename_i hcancelled hnever
    rcases e.wording_cases with ⟨hworded, hok⟩ | ⟨hmute, f, herror⟩
    · rw [hok]
      exact .inl ⟨⟨hcancelled, hnever, hworded⟩, close_failure _⟩
    · rw [herror]
      exact .inr ⟨fun h => hmute h.worded, (close_failure s).trans hnone⟩

/-- Only a failure of the listing changes what a stream keeps of one. -/
theorem Step.failure_eq (h : Step listing first s action t reply) :
    t.failure = s.failure ∨
      ∃ e, s.producer = .fetching ∧ listing s.calls = .error e ∧ t = s.fail e := by
  cases h with
  | fault hp he => exact Or.inr ⟨_, hp, he, rfl⟩
  | page | goOn => exact Or.inl (continueWith_failure s _ _)
  | _ => exact Or.inl rfl

theorem Step.failure_of_ended (h : Step listing first s action t reply)
    (hended : s.producer = .ended) : t.failure = s.failure := by
  rcases h.failure_eq with hsame | ⟨e, hp, -⟩
  · exact hsame
  · rw [hended] at hp
    cases hp

theorem run?_failure_of_ended {actions : List Action} {replies : List (Reply α)}
    (hended : s.producer = .ended) (h : s.run? listing first actions = some (t, replies)) :
    t.failure = s.failure := by
  have hrun := run?_induction (P := fun u _ _ => u.producer = .ended ∧ u.failure = s.failure) ?_
    ⟨hended, rfl⟩ h
  · exact hrun.2
  · intro u v action reply _ _ ⟨hu, hfailure⟩ hstep
    exact ⟨(hstep.ended hu).1, (hstep.failure_of_ended hu).trans hfailure⟩

/-! ## How a walk ends -/

/-- A walk has come to the last page, or its last call failed. -/
def Concluded (listing : Pageable α) (first : PageCall α) (s : Stream α) : Prop :=
  ∃ seen, Asked listing first seen s.calls ∧
    ((∃ page, listing s.calls = .ok page ∧ page.isLast = true) ∧ s.failure = none ∨
      ∃ e, listing s.calls = .error e ∧
        (e.IsKept ∧ s.failure = some e ∨ ¬ e.IsKept ∧ s.failure = none))

/-- What a stream that was `stopped` from outside or not tells of the end of its listing. -/
structure Telling (listing : Pageable α) (first : PageCall α) (s : Stream α) (stopped : Bool) :
    Prop where
  /-- There is no failure before the end of the producer. -/
  fresh : s.producer ≠ .ended → s.failure = none
  /-- A failure that is kept is that of the last call. -/
  kept : ∀ e, s.failure = some e → listing s.calls = .error e
  /-- A producer that has ended by itself has concluded its walk. -/
  concluded : s.producer = .ended → stopped = false → s.Concluded listing first

theorem Telling.start : Telling listing first (Stream.start : Stream α) false where
  fresh _ := rfl
  kept e h := by cases h
  concluded h := by cases h

/-- A producer that goes on with a page ends with the last one only. -/
theorem isLast_of_ended {rest : List α} {page : Page α} (hdone : s.done = false)
    (hended : (s.continueWith rest page).producer = .ended) :
    page.isLast = true ∧ (s.continueWith rest page).calls = s.calls := by
  cases rest with
  | cons a rest =>
    rw [continueWith, if_neg (by simp [hdone])] at hended
    cases hended
  | nil =>
    cases hlast : page.isLast with
    | true =>
      rw [continueWith, if_pos hlast]
      exact ⟨rfl, close_calls s⟩
    | false =>
      rw [continueWith, if_neg (by simp [hlast])] at hended
      cases hended

/-- A producer that ends by itself concludes its walk. -/
theorem Telling.conclude (h : Telling listing first s stopped)
    (hd : Delivering listing first s items stopped) (hs : s.producer ≠ .ended)
    (hstep : Step listing first s action t reply) (ht : t.producer = .ended)
    (hstopped : (stopped || action.stops) = false) : t.Concluded listing first := by
  obtain ⟨hbefore, hstops⟩ := Bool.or_eq_false_iff.mp hstopped
  have hfresh := h.fresh hs
  have hopen : s.done = false := by
    cases hdone : s.done with
    | false => rfl
    | true => exact absurd (hd.complete hdone hbefore).1 hs
  have hprogress := hd.progress hopen
  unfold Progress at hprogress
  cases hstep with
  | @page page hp hpage =>
    rw [hp] at hprogress
    obtain ⟨hlast, hcalls⟩ := isLast_of_ended hopen ht
    refine ⟨items, by rw [hcalls]; exact hprogress,
      Or.inl ⟨⟨page, by rw [hcalls]; exact hpage, hlast⟩, ?_⟩⟩
    exact (continueWith_failure s _ _).trans hfresh
  | @fault e hp he =>
    rw [hp] at hprogress
    refine ⟨items, by rw [fail_calls]; exact hprogress,
      Or.inr ⟨e, by rw [fail_calls]; exact he, ?_⟩⟩
    exact fail_failure hfresh e
  | @goOn rest page hp _ hacknowledged =>
    rw [hp] at hprogress
    obtain ⟨seen, shown, a, hasked, hpage, -⟩ := hprogress
    obtain ⟨hlast, hcalls⟩ := isLast_of_ended hopen ht
    refine ⟨seen, by rw [hcalls]; exact hasked,
      Or.inl ⟨⟨page, by rw [hcalls]; exact hpage, hlast⟩, ?_⟩⟩
    exact (continueWith_failure s _ _).trans hfresh
  | withdraw _ hdone | leave _ hdone => exact absurd (hopen.symm.trans hdone) (by simp)
  | killEarly | kill => cases hstops
  | begin | put | hand => cases ht
  | _ => exact absurd ht hs

/-- Every step keeps what a stream tells. -/
theorem Telling.step (h : Telling listing first s stopped)
    (hd : Delivering listing first s items stopped) (hstep : Step listing first s action t reply) :
    Telling listing first t (stopped || action.stops) := by
  by_cases hs : s.producer = .ended
  · obtain ⟨hended, hcalls⟩ := hstep.ended hs
    have hfailure := hstep.failure_of_ended hs
    refine ⟨fun ht => absurd hended ht, fun e he => ?_, fun _ hstopped => ?_⟩
    · rw [hcalls]
      exact h.kept e (hfailure.symm.trans he)
    · have hconcluded := h.concluded hs (Bool.or_eq_false_iff.mp hstopped).1
      unfold Concluded at hconcluded ⊢
      rw [hcalls, hfailure]
      exact hconcluded
  · have hfresh := h.fresh hs
    rcases hstep.failure_eq with hsame | ⟨e, -, he, rfl⟩
    · exact ⟨fun _ => hsame.trans hfresh, fun e he => by simp [hsame, hfresh] at he,
        fun ht hstopped => h.conclude hd hs hstep ht hstopped⟩
    · refine ⟨fun ht => absurd (fail_producer s e) ht, fun e' he' => ?_,
        fun ht hstopped => h.conclude hd hs hstep ht hstopped⟩
      rcases fail_failure hfresh e with ⟨-, hkept⟩ | ⟨-, hlost⟩
      · obtain rfl : e = e' := Option.some.inj (hkept.symm.trans he')
        rw [fail_calls]
        exact he
      · exact absurd (hlost.symm.trans he') nofun

theorem Telling.run {actions : List Action} {replies : List (Reply α)}
    (h : Stream.start.run? listing first actions = some (t, replies)) :
    Telling listing first t (actions.any Action.stops) := by
  refine Delivering.induction (P := fun u actions _ =>
    Telling listing first u (actions.any Action.stops)) ?_ .start h
  intro u v action reply actions replies hu htelling hstep
  simpa using htelling.step hu hstep

/-- What a stream tells from the failure of a call on. -/
theorem Telling.told_of_fault {e : Outside} {after : List Action} {replies : List (Reply α)}
    (h : Telling listing first s stopped) (he : listing s.calls = .error e)
    (hrun : s.run? listing first (.answer :: after) = some (t, replies)) :
    (t.failure = some e ↔ e.IsKept) ∧ (t.failure = none ↔ ¬ e.IsKept) ∧
      (e.kind = .cancelled → t.done = true) := by
  obtain ⟨u, reply, more, hu, hmore, -⟩ := run?_cons.mp hrun
  obtain ⟨hp, rfl⟩ : s.producer = .fetching ∧ u = s.fail e := by
    cases Step.of_step? hu with
    | page _ hpage => rw [he] at hpage; cases hpage
    | fault hp he' => rw [he] at he'; cases he'; exact ⟨hp, rfl⟩
  have hfresh := h.fresh (by rw [hp]; simp)
  have hsame := run?_failure_of_ended (fail_producer s e) hmore
  rw [hsame]
  refine and_assoc.mp ⟨?_, fun hcancelled => ?_⟩
  · rcases fail_failure hfresh e with ⟨hkept, hfailure⟩ | ⟨hlost, hfailure⟩
    · simp [hfailure, hkept]
    · simp [hfailure, hlost]
  · have hdone : (s.fail e).done = true := by simp [fail, hcancelled]
    exact (run?_of_done hdone hmore).1

/-! ## Failed and exhausted listings -/

/-- A listing that fails is told from one that is exhausted exactly if its failure is one that is
kept. Such a failure of a call is what the stream has from then on. Any other one leaves nothing
behind, and one that means "stop" makes the stream done at once. A failure that is kept is that of
the last call. If a call has found the stream at its end and nobody has stopped the stream, there is
no failure if and only if all pages were fetched up to one without items or one whose number is not
below the number of pages, or the last call failed in one of the ways that are not kept. -/
theorem failure_told_iff (listing : Pageable α) (params : List Parameter) (pageSize : Int)
    {actions : List Action} {t : Stream α} {replies : List (Reply α)}
    (h : Stream.start.run? listing (.first pageSize params) actions = some (t, replies)) :
    (∀ before after s earlier e, actions = before ++ .answer :: after →
      Stream.start.run? listing (.first pageSize params) before = some (s, earlier) →
      listing s.calls = .error e →
        (t.failure = some e ↔ e.IsKept) ∧ (t.failure = none ↔ ¬ e.IsKept) ∧
        (e.kind = .cancelled → t.done = true)) ∧
    (∀ e, t.failure = some e → listing t.calls = .error e) ∧
    (.finished ∈ replies → (∀ action ∈ actions, action.stops = false) →
      (t.failure = none ↔
        (∃ pages page, Behind listing (.first pageSize params) t.calls pages ∧
          listing t.calls = .ok page ∧ (page.content = [] ∨ page.total ≤ page.num)) ∨
        ∃ e, listing t.calls = .error e ∧ ¬ e.IsKept)) := by
  have htelling := Telling.run h
  refine ⟨?_, htelling.kept, fun hfinished hstops => ?_⟩
  · intro before after s earlier e hactions hs he
    subst hactions
    obtain ⟨v, _, _, hv, hrest, -⟩ := run?_append.mp h
    obtain ⟨rfl, -⟩ := Prod.mk.inj (Option.some.inj (hs.symm.trans hv))
    exact (Telling.run hs).told_of_fault he hrest
  · have hstops : actions.any Action.stops = false := by simpa using hstops
    have hended := ((Delivering.run h).complete (run?_done_of_finished h hfinished) hstops).1
    obtain ⟨seen, hasked, hconcluded⟩ := htelling.concluded hended hstops
    constructor
    · intro hnone
      rcases hconcluded with ⟨⟨page, hpage, hlast⟩, -⟩ | ⟨e, he, hfailure⟩
      · obtain ⟨pages, hbehind, -⟩ := hasked.exists_behind
        exact Or.inl ⟨pages, page, hbehind, hpage, Page.isLast_iff_total_le.mp hlast⟩
      · rcases hfailure with ⟨-, hkept⟩ | ⟨hlost, -⟩
        · exact absurd (hnone.symm.trans hkept) nofun
        · exact Or.inr ⟨e, he, hlost⟩
    · intro hends
      rcases hconcluded with ⟨-, hnone⟩ | ⟨e, he, ⟨hkept, -⟩ | ⟨-, hnone⟩⟩
      · exact hnone
      · rcases hends with ⟨-, page, -, hpage, -⟩ | ⟨e', he', hlost⟩
        · exact absurd (he.symm.trans hpage) nofun
        · obtain rfl : e = e' := Except.error.inj (he.symm.trans he')
          exact absurd hkept hlost
      · exact hnone

/-- The second of two pages fails to be fetched. The failure is kept if it is one of the run, and no
failure is there at the end if it means "nothing found" or has no text. -/
theorem failure_told_of_second_page :
    let broken : Outside := { kind := .runtime, text := "failed to fetch page 2" }
    let never : Outside := { kind := .neverMet, text := "condition was never met" }
    let mute : Outside := { broken with textFailure := some (.value, "no text") }
    let page : Page Nat := { num := 1, size := 1, total := 2, content := [7], options := [] }
    let listing : Outside → Pageable Nat := fun e calls =>
      if calls.length = 1 then .ok page else .error e
    let before : List Action := [.begin, .answer, .request 0, .put, .take 0, .return 0, .proceed,
      .proceed]
    let after : List Action := [.request 1, .take 1, .return 1]
    let ends : Outside → Option Outside → Prop := fun e failure =>
      ∃ t, Stream.start.run? (listing e) (.first 1 []) (before ++ .answer :: after) =
          some (t, [.item 7, .finished]) ∧
        listing e t.calls = .error e ∧ t.failure = failure
    ends broken (some broken) ∧ ends never none ∧ ends mute none := by
  intro broken never mute page listing before after ends
  have hends : ∀ e ∈ [broken, never, mute], ∃ t,
      Stream.start.run? (listing e) (.first 1 []) (before ++ .answer :: after) =
        some (t, [.item 7, .finished]) ∧
      listing e t.calls = .error e ∧ (t.failure = some e ↔ e.IsKept) ∧
        (t.failure = none ↔ ¬ e.IsKept) := by
    intro e he
    obtain ⟨t, ht, hcalls⟩ : ∃ t,
        Stream.start.run? (listing e) (.first 1 []) (before ++ .answer :: after) =
          some (t, [.item 7, .finished]) ∧ listing e t.calls = .error e := by
      simp only [List.mem_cons, List.not_mem_nil, or_false] at he
      rcases he with rfl | rfl | rfl
      · exact ⟨_, rfl, rfl⟩
      · exact ⟨_, rfl, rfl⟩
      · exact ⟨_, rfl, rfl⟩
    obtain ⟨htold, hnone, -⟩ := (failure_told_iff (listing e) [] 1 ht).1 _ _ _ _ e rfl rfl rfl
    exact ⟨t, ht, hcalls, htold, hnone⟩
  refine ⟨?_, ?_, ?_⟩
  · obtain ⟨t, ht, hcalls, htold, -⟩ := hends broken (by simp)
    exact ⟨t, ht, hcalls, htold.mpr ⟨by decide, by decide, rfl⟩⟩
  · obtain ⟨t, ht, hcalls, -, hnone⟩ := hends never (by simp)
    exact ⟨t, ht, hcalls, hnone.mpr fun h => h.neverMet rfl⟩
  · obtain ⟨t, ht, hcalls, -, hnone⟩ := hends mute (by simp)
    exact ⟨t, ht, hcalls, hnone.mpr fun h => absurd h.worded nofun⟩

end Stream

end ApiClient
