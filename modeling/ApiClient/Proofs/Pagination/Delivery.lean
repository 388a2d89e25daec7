import ApiClient.Pagination.Listing
import ApiClient.Proofs.Pagination.Handover
import ApiClient.Proofs.Pagination.Walk

/-!
# What a stream delivers

The items that calls return are those that a walk through the listing visits, in its order.
`Progress` says where the producer of a stream that is not done stands in its walk, and how many
items of that walk have been returned; `Delivering` adds what remains of that once the stream is
done.
-/

namespace ApiClient

variable {α : Type}

/-- Whether an action ends a stream from outside. -/
def Action.stops : Action → Bool
  | kill | cancel | close _ => true
  | _ => false

namespace Stream

/-- The producer has handed over an item of `page` in front of `rest`, which is returned by the time
it is acknowledged. -/
def Handed (listing : Pageable α) (first : PageCall α) (s : Stream α) (rest : List α)
    (page : Page α) (items : List α) : Prop :=
  ∃ seen shown a, Asked listing first seen s.calls ∧ listing s.calls = .ok page ∧
    page.content = shown ++ a :: rest ∧ (∀ offer ∈ s.inFlight, offer = .item a) ∧
    items = seen ++ shown ++ if s.unacknowledged = 0 then [a] else []

/-- Where the producer of a stream that is not done stands when `items` have been returned. -/
def Progress (listing : Pageable α) (first : PageCall α) (s : Stream α) (items : List α) : Prop :=
  match s.producer with
  | .absent => False
  | .waiting => s.calls = [] ∧ items = []
  | .fetching => Asked listing first items s.calls
  | .offering a rest page => ∃ seen shown, Asked listing first seen s.calls ∧
      listing s.calls = .ok page ∧ page.content = shown ++ a :: rest ∧ items = seen ++ shown
  | .offered rest page => s.Handed listing first rest page items
  | .handing rest page => s.Handed listing first rest page items
  | .ended => s.unacknowledged = 0 ∧ items = [] ∨
      Scan.Visits listing first items s.calls ∧ ∀ offer ∈ s.inFlight, offer = .closing

/-- What holds of a stream when `items` have been returned. Once it is done nothing more is
returned, and all items have been unless it was `stopped` from outside. -/
structure Delivering (listing : Pageable α) (first : PageCall α) (s : Stream α) (items : List α)
    (stopped : Bool) : Prop where
  /-- The state of the stream is sound. -/
  sound : s.Sound
  /-- A stream that is not done makes progress. -/
  progress : s.done = false → s.Progress listing first items
  /-- The items are those that a walk visits first. -/
  visited : ∃ fuel, items <+: Scan.visited listing first fuel
  /-- A stream that comes to its end by itself has returned all items. -/
  complete : s.done = true → stopped = false →
    s.producer = .ended ∧ Scan.Visits listing first items s.calls

variable {listing : Pageable α} {first : PageCall α} {s t : Stream α} {action : Action}
  {reply : Option (Reply α)} {items : List α} {rest : List α} {page : Page α} {stopped : Bool}

theorem Sound.inFlight_eq_nil (hs : s.Sound) (hacknowledged : s.unacknowledged = 0) :
    s.inFlight = [] :=
  List.length_eq_zero_iff.mp (Nat.le_zero.mp (hacknowledged ▸ hs.inFlight_le))

/-! ## Progress is a walk -/

theorem Handed.visited (h : s.Handed listing first rest page items) :
    ∃ fuel, items <+: Scan.visited listing first fuel := by
  obtain ⟨seen, shown, a, hasked, hpage, hcontent, -, rfl⟩ := h
  obtain ⟨fuel, hfuel⟩ := hasked.visited_page hpage
  refine ⟨fuel, ?_⟩
  rw [hfuel, hcontent, List.append_assoc, List.prefix_append_right_inj,
    List.prefix_append_right_inj]
  split
  · exact ⟨rest, rfl⟩
  · exact List.nil_prefix

/-- A producer that makes progress has had nothing returned but what a walk visits. -/
theorem Progress.visited (h : s.Progress listing first items) :
    ∃ fuel, items <+: Scan.visited listing first fuel := by
  unfold Progress at h
  split at h
  · exact h.elim
  · exact ⟨0, by rw [h.2]; exact List.nil_prefix⟩
  · obtain ⟨fuel, hfuel⟩ := h.visited_eq
    exact ⟨fuel, hfuel ▸ List.prefix_refl _⟩
  · obtain ⟨seen, shown, hasked, hpage, hcontent, rfl⟩ := h
    obtain ⟨fuel, hfuel⟩ := hasked.visited_page hpage
    exact ⟨fuel, by rw [hfuel, hcontent, ← List.append_assoc]; exact List.prefix_append _ _⟩
  · exact Handed.visited h
  · exact Handed.visited h
  · rcases h with ⟨-, rfl⟩ | ⟨⟨fuel, outcome, hrun⟩, -⟩
    · exact ⟨0, List.nil_prefix⟩
    · have hseen : Scan.visited listing first fuel = items := by rw [Scan.visited, hrun]
      exact ⟨fuel, hseen ▸ List.prefix_refl _⟩

/-! ## Steps of the producer -/

theorem Progress.close (hs : s.Sound) (hdone : s.done = false)
    (hacknowledged : s.unacknowledged = 0) (hvisits : Scan.Visits listing first items s.calls) :
    s.close.Progress listing first items := by
  rw [close_of_open hdone]
  have hempty := hs.inFlight_eq_nil hacknowledged
  refine Or.inr ⟨hvisits, fun offer hoffer => ?_⟩
  simp only [inFlight, push, List.append_eq_nil_iff] at hempty hoffer
  simpa [hempty.1, hempty.2] using hoffer

/-- The producer goes on with a page after all items before have been returned. -/
theorem Progress.continueWith (hs : s.Sound) (hdone : s.done = false)
    (hacknowledged : s.unacknowledged = 0) {seen shown : List α}
    (hasked : Asked listing first seen s.calls) (hpage : listing s.calls = .ok page)
    (hcontent : page.content = shown ++ rest) :
    (s.continueWith rest page).done = false ∧
      (s.continueWith rest page).Progress listing first (seen ++ shown) := by
  cases rest with
  | cons a rest =>
    simp only [Stream.continueWith, hdone, Bool.false_eq_true, if_false]
    exact ⟨trivial, seen, shown, hasked, hpage, hcontent, rfl⟩
  | nil =>
    have hcontent : shown = page.content := by simpa using hcontent.symm
    subst hcontent
    cases hlast : page.isLast with
    | true =>
      simp only [Stream.continueWith, hlast, if_true]
      exact ⟨(close_done s).trans hdone,
        Progress.close hs hdone hacknowledged (hasked.visits_of_last hpage hlast)⟩
    | false =>
      simp only [Stream.continueWith, hlast, Bool.false_eq_true, if_false]
      exact ⟨hdone, hasked.next hpage hlast⟩

/-- A step leads to progress, or to the end of the stream. -/
def Advances (listing : Pageable α) (first : PageCall α) (t : Stream α) (items : List α)
    (action : Action) : Prop :=
  t.done = false ∧ t.Progress listing first items ∨
    t.done = true ∧ (action.stops = true ∨
      t.producer = .ended ∧ Scan.Visits listing first items t.calls)

theorem Progress.fail (hs : s.Sound) (hdone : s.done = false) (hacknowledged : s.unacknowledged = 0)
    (hasked : Asked listing first items s.calls) {e : Outside} (he : listing s.calls = .error e) :
    (s.fail e).Advances listing first items .answer := by
  have hvisits := hasked.visits_of_error he
  rcases fail_cases s e with h | ⟨failure, h⟩
  · rw [h]
    exact Or.inr ⟨rfl, Or.inr ⟨rfl, hvisits⟩⟩
  · rw [h]
    refine Or.inl ⟨(close_done _).trans hdone, Progress.close ?_ hdone hacknowledged hvisits⟩
    exact ⟨hs.ids, hs.inFlight_le, hs.unacknowledged_le, hs.rests⟩

/-- What calls do besides returning an item leaves the producer where it stands. -/
theorem Progress.congr (h : s.Progress listing first items) (hproducer : t.producer = s.producer)
    (hcalls : t.calls = s.calls) (hunacknowledged : t.unacknowledged = s.unacknowledged)
    (hinFlight : ∀ offer ∈ t.inFlight, offer ∈ s.inFlight) : t.Progress listing first items := by
  unfold Progress Handed at h ⊢
  rw [hproducer, hcalls, hunacknowledged]
  cases hp : s.producer <;> simp only [hp] at h ⊢
  · exact h
  · exact h
  · exact h
  · obtain ⟨seen, shown, a, hasked, hpage, hcontent, hall, hitems⟩ := h
    exact ⟨seen, shown, a, hasked, hpage, hcontent, fun o ho => hall o (hinFlight o ho), hitems⟩
  · obtain ⟨seen, shown, a, hasked, hpage, hcontent, hall, hitems⟩ := h
    exact ⟨seen, shown, a, hasked, hpage, hcontent, fun o ho => hall o (hinFlight o ho), hitems⟩
  · exact h.imp_right fun h => ⟨h.1, fun o ho => h.2 o (hinFlight o ho)⟩

/-- An item that a call returns is the next that a walk visits. -/
theorem Handed.deliver (h : s.Handed listing first rest page items) {id : Nat} {k : Taker α} {a : α}
    (hk : s.taker? id = some k) (htaken : k.taken = some (.item a)) (hone : s.unacknowledged = 1) :
    Handed listing first { s.dismiss id with unacknowledged := 0 } rest page (items ++ [a]) := by
  obtain ⟨seen, shown, b, hasked, hpage, hcontent, hall, rfl⟩ := h
  obtain rfl : a = b := by simpa using hall _ (mem_inFlight_of_taken hk htaken)
  refine ⟨seen, shown, a, hasked, hpage, hcontent, fun o ho => ?_, by simp [hone]⟩
  exact hall o ((inFlight_dismiss_sublist s id).subset ho)

/-- Every step of a stream that is not done advances its walk. -/
theorem Progress.step (h : s.Progress listing first items) (hs : s.Sound) (hdone : s.done = false)
    (hstep : Step listing first s action t reply) :
    t.Advances listing first (items ++ delivered reply.toList) action := by
  have hnil : items ++ delivered ([] : List (Reply α)) = items := List.append_nil _
  cases hstep with
  | begin hp =>
    simp only [Progress, hp] at h
    refine Or.inl ⟨hdone, ?_⟩
    simp only [Progress, fetch, h.1, h.2]
    exact .first
  | page hp hpage =>
    have hacknowledged := hs.rests (by rw [hp]; rfl)
    simp only [Progress, hp] at h
    exact Or.inl (Progress.continueWith hs hdone hacknowledged h hpage rfl)
  | fault hp he =>
    have hacknowledged := hs.rests (by rw [hp]; rfl)
    simp only [Progress, hp] at h
    exact hnil.symm ▸ Progress.fail hs hdone hacknowledged h he
  | @put a rest page hp =>
    have hacknowledged := hs.rests (by rw [hp]; rfl)
    have hempty := hs.inFlight_eq_nil hacknowledged
    simp only [Progress, hp] at h
    obtain ⟨seen, shown, hasked, hpage, hcontent, rfl⟩ := h
    refine Or.inl ⟨hdone, seen, shown, a, hasked, hpage, hcontent, fun o ho => ?_, by simp [push]⟩
    simp only [inFlight, push, List.append_eq_nil_iff] at hempty ho
    simpa [hempty.1, hempty.2] using ho
  | hand hp =>
    simp only [Progress, hp] at h
    exact Or.inl ⟨hdone, hnil.symm ▸ h⟩
  | goOn hp _ hacknowledged =>
    simp only [Progress, hp] at h
    obtain ⟨seen, shown, a, hasked, hpage, hcontent, -, rfl⟩ := h
    have hgoOn := Progress.continueWith hs hdone hacknowledged hasked hpage
      (hcontent.trans (List.append_cons shown a _))
    exact Or.inl (by simpa [hacknowledged] using hgoOn)
  | killEarly hp =>
    have hacknowledged := hs.rests (by rw [hp]; rfl)
    simp only [Progress, hp] at h
    exact Or.inl ⟨hdone, Or.inl ⟨hacknowledged, hnil.trans h.2⟩⟩
  | kill => exact Or.inr ⟨rfl, Or.inl rfl⟩
  | withdraw _ h' | leave _ h' | refuse h' | release _ h' => exact absurd h' (by simp [hdone])
  | request =>
    exact Or.inl ⟨hdone, hnil.symm ▸ h.congr rfl rfl rfl fun o ho => by simpa [inFlight] using ho⟩
  | take _ hqueue =>
    exact Or.inl ⟨hdone, hnil.symm ▸ h.congr rfl rfl rfl fun o ho => mem_inFlight_of_take hqueue ho⟩
  | @deliver id n a k hk htaken hn =>
    obtain rfl : n = 0 := by have := hs.unacknowledged_le; omega
    refine Or.inl ⟨hdone, ?_⟩
    unfold Progress at h ⊢
    simp only [dismiss]
    cases hp : s.producer <;> simp only [hp] at h ⊢
    · exact absurd (hs.rests (by rw [hp]; rfl)) (by omega)
    · exact absurd (hs.rests (by rw [hp]; rfl)) (by omega)
    · exact absurd (hs.rests (by rw [hp]; rfl)) (by omega)
    · exact Handed.deliver h hk htaken hn
    · exact Handed.deliver h hk htaken hn
    · rcases h with ⟨h, -⟩ | ⟨-, hall⟩
      · omega
      · exact absurd (hall _ (mem_inFlight_of_taken hk htaken)) (by simp)
  | @finish id n k hk htaken hn =>
    have hflight := mem_inFlight_of_taken hk htaken
    refine Or.inr ⟨rfl, Or.inr ?_⟩
    unfold Progress at h
    cases hp : s.producer <;> simp only [hp] at h
    · exact absurd (hs.rests (by rw [hp]; rfl)) (by omega)
    · exact absurd (hs.rests (by rw [hp]; rfl)) (by omega)
    · exact absurd (hs.rests (by rw [hp]; rfl)) (by omega)
    · obtain ⟨_, _, _, _, _, _, hall, _⟩ := h
      exact absurd (hall _ hflight) (by simp)
    · obtain ⟨_, _, _, _, _, _, hall, _⟩ := h
      exact absurd (hall _ hflight) (by simp)
    · rcases h with ⟨h, -⟩ | ⟨hvisits, -⟩
      · omega
      · exact ⟨hp, hnil.symm ▸ hvisits⟩
  | interrupt =>
    exact Or.inl ⟨hdone, hnil.symm ▸ h.congr rfl rfl rfl
      fun o ho => (inFlight_dismiss_sublist s _).subset ho⟩
  | cancel => exact Or.inr ⟨rfl, Or.inl rfl⟩
  | closeBare => exact Or.inr ⟨rfl, Or.inl rfl⟩
  | close => exact Or.inr ⟨rfl, Or.inl rfl⟩
  | settle => exact Or.inl ⟨hdone, hnil.symm ▸ h.congr rfl rfl rfl fun o ho => ho⟩

/-! ## Runs -/

theorem Delivering.start :
    Delivering listing first (Stream.start : Stream α) [] false where
  sound := .start
  progress _ := ⟨rfl, rfl⟩
  visited := ⟨0, List.nil_prefix⟩
  complete h := absurd h (by simp [Stream.start])

/-- Every step of a stream returns the next item of the walk, if any, and loses none. -/
theorem Delivering.step (h : Delivering listing first s items stopped)
    (hstep : Step listing first s action t reply) :
    Delivering listing first t (items ++ delivered reply.toList) (stopped || action.stops) := by
  cases hdone : s.done with
  | true =>
    obtain ⟨hdone', hnone⟩ := hstep.done hdone
    rw [hnone, List.append_nil]
    refine ⟨h.sound.step hstep, fun hd => ?_, h.visited, fun _ hstopped => ?_⟩
    · rw [hdone'] at hd; cases hd
    · obtain ⟨hended, hvisits⟩ := h.complete hdone (Bool.or_eq_false_iff.mp hstopped).1
      obtain ⟨hended', hcalls⟩ := hstep.ended hended
      exact ⟨hended', hcalls ▸ hvisits⟩
  | false =>
    rcases (h.progress hdone).step h.sound hdone hstep with ⟨hd, hp⟩ | ⟨hd, hend⟩
    · refine ⟨h.sound.step hstep, fun _ => hp, hp.visited, fun hd' => ?_⟩
      rw [hd] at hd'; cases hd'
    · have hnone : delivered reply.toList = [] := hstep.delivered_eq_nil hdone hd
      rw [hnone, List.append_nil] at hend ⊢
      refine ⟨h.sound.step hstep, fun hd' => ?_, h.visited, fun _ hstopped => ?_⟩
      · rw [hd] at hd'; cases hd'
      · rw [(Bool.or_eq_false_iff.mp hstopped).2] at hend
        exact hend.resolve_left (by simp)

/-- Every run from the start returns the first items of the walk, in its order. -/
theorem Delivering.run {actions : List Action} {replies : List (Reply α)}
    (h : Stream.start.run? listing first actions = some (t, replies)) :
    Delivering listing first t (delivered replies) (actions.any Action.stops) := by
  refine run?_induction (P := fun u actions replies =>
    Delivering listing first u (delivered replies) (actions.any Action.stops)) ?_
    .start h
  intro u v action reply actions replies hu hstep
  simpa using hu.step hstep

/-- What the steps of a delivering stream keep holds in every run. -/
theorem Delivering.induction {P : Stream α → List Action → List (Reply α) → Prop}
    (hstep : ∀ {u v : Stream α} {action : Action} {reply : Option (Reply α)}
      {actions : List Action} {replies : List (Reply α)},
      Delivering listing first u (delivered replies) (actions.any Action.stops) →
      P u actions replies → Step listing first u action v reply →
      P v (actions ++ [action]) (replies ++ reply.toList))
    {actions : List Action} {replies : List (Reply α)} (hstart : P Stream.start [] [])
    (h : Stream.start.run? listing first actions = some (t, replies)) : P t actions replies := by
  have hrun := run?_induction (P := fun u actions replies =>
    Delivering listing first u (delivered replies) (actions.any Action.stops) ∧
      P u actions replies) ?_ ⟨.start, hstart⟩ h
  · exact hrun.2
  · intro u v action reply actions replies ⟨hu, hp⟩ hstep'
    exact ⟨by simpa using hu.step hstep', hstep hu hp hstep'⟩

/-! ## Delivery -/

/-- In every run the items returned are the first that a scan shows whose condition is never met.
If a call has found the stream at its end and nobody has stopped the stream, they are all that such
a scan shows until the listing is exhausted or fails; and from then on no call returns an item, and
every new call finds the end at once. -/
theorem items_delivered_in_order (listing : Pageable α) (params : List Parameter) (pageSize : Int)
    {actions : List Action} {t : Stream α} {replies : List (Reply α)}
    (h : Stream.start.run? listing (.first pageSize params) actions = some (t, replies)) :
    (∃ fuel, delivered replies <+:
      (Scan.run listing Condition.never params pageSize fuel).seen) ∧
    (.finished ∈ replies →
      ((∀ action ∈ actions, action.stops = false) → ∃ fuel outcome,
        Scan.run listing Condition.never params pageSize fuel =
          { seen := delivered replies, calls := t.calls, outcome := some outcome }) ∧
      ∀ later u more, t.run? listing (.first pageSize params) later = some (u, more) →
        delivered more = [] ∧ ∀ id, u.taker? id = none →
          u.step? listing (.first pageSize params) (.request id) = some (u, some .finished)) := by
  have hrun := Delivering.run h
  refine ⟨hrun.visited, fun hfinished => ?_⟩
  have hdone := run?_done_of_finished h hfinished
  refine ⟨fun hstops => ?_, fun later u more hlater => ?_⟩
  · have hstops : actions.any Action.stops = false := by simpa using hstops
    exact (hrun.complete hdone hstops).2
  · obtain ⟨hdone', hnone⟩ := run?_of_done hdone hlater
    exact ⟨hnone, fun id hid => request_of_done hdone' hid⟩

/-- A stream of two pages with one item each, from the first call to its end. -/
theorem items_delivered_of_two_pages :
    let listing : Pageable Nat := .ofGet (Listing.getItems [7, 8])
    let actions : List Action := [.begin, .answer, .request 0, .put, .take 0, .return 0, .proceed,
      .proceed, .answer, .request 1, .put, .proceed, .take 1, .return 1, .request 2, .proceed,
      .take 2, .return 2]
    ∃ t, Stream.start.run? listing (.first 1 []) actions =
        some (t, [.item 7, .item 8, .finished]) ∧
      ∃ fuel outcome, Scan.run listing Condition.never [] 1 fuel =
        { seen := [7, 8], calls := t.calls, outcome := some outcome } := by
  intro listing actions
  refine ⟨_, rfl, ?_⟩
  have h := items_delivered_in_order listing [] 1 (rfl : Stream.start.run? listing
    (.first 1 []) actions = some (_, [.item 7, .item 8, .finished]))
  exact (h.2 (by decide)).1 (by decide)

end Stream

end ApiClient
