import ApiClient.Proofs.Pagination.Step

/-!
# What is under way in a stream

An offer is in flight from the moment the producer puts it into the queue until the call that has
taken it returns. `Sound` bounds what is in flight by what is not acknowledged, which is one offer
at most, and none at all while the producer fetches a page or has an item at hand.
-/

namespace ApiClient

variable {α : Type}

/-- Whether the producer has nothing to be acknowledged. -/
def Producer.rests : Producer α → Bool
  | absent | waiting | fetching | offering .. => true
  | offered .. | handing .. | ended => false

namespace Stream

/-- The offers that are in the queue or taken. -/
def inFlight (s : Stream α) : List (Offer α) :=
  s.queue ++ s.takers.filterMap Taker.taken

/-- What holds of a stream in every state. -/
structure Sound (s : Stream α) : Prop where
  /-- Calls that have not returned are told apart. -/
  ids : (s.takers.map Taker.id).Nodup
  /-- What is in flight is not acknowledged. -/
  inFlight_le : s.inFlight.length ≤ s.unacknowledged
  /-- One offer at most is not acknowledged. -/
  unacknowledged_le : s.unacknowledged ≤ 1
  /-- A producer that rests has all its offers acknowledged. -/
  rests : s.producer.rests = true → s.unacknowledged = 0

variable {s t : Stream α} {listing : Pageable α} {first : PageCall α} {action : Action}
  {reply : Option (Reply α)}

theorem Sound.start : (Stream.start : Stream α).Sound where
  ids := by simp [Stream.start]
  inFlight_le := by simp [Stream.start, inFlight]
  unacknowledged_le := by simp [Stream.start]
  rests := by simp [Stream.start]

/-! ## Calls -/

theorem mem_takers_of_taker? {id : Nat} {k : Taker α} (h : s.taker? id = some k) :
    k ∈ s.takers ∧ k.id = id :=
  ⟨List.mem_of_find?_eq_some h, by simpa using List.find?_some h⟩

theorem mem_inFlight_of_taken {id : Nat} {k : Taker α} {offer : Offer α}
    (h : s.taker? id = some k) (hoffer : k.taken = some offer) : offer ∈ s.inFlight :=
  List.mem_append_right _ (List.mem_filterMap.mpr ⟨k, (mem_takers_of_taker? h).1, hoffer⟩)

theorem inFlight_dismiss_sublist (s : Stream α) (id : Nat) :
    (s.dismiss id).inFlight.Sublist s.inFlight :=
  List.Sublist.append_left (List.filter_sublist.filterMap _) _

theorem filterMap_length_lt {β γ : Type} {f : β → Option γ} {p : β → Bool} {l : List β} {b : β}
    {c : γ} (hb : b ∈ l) (hp : p b = false) (hf : f b = some c) :
    ((l.filter p).filterMap f).length < (l.filterMap f).length := by
  induction l with
  | nil => cases hb
  | cons x l ih =>
    have hle : ((l.filter p).filterMap f).length ≤ (l.filterMap f).length :=
      (List.filter_sublist.filterMap f).length_le
    rcases List.mem_cons.mp hb with rfl | hb
    · simp only [List.filter_cons, hp, Bool.false_eq_true, if_false, List.filterMap_cons, hf,
        List.length_cons]
      omega
    · have := ih hb
      simp only [List.filter_cons, List.filterMap_cons]
      split <;> cases hx : f x <;> simp only [List.filterMap_cons, hx, List.length_cons] <;> omega

/-- With a call that has taken an offer, the offer is no longer in flight. -/
theorem inFlight_dismiss_lt {id : Nat} {k : Taker α} {offer : Offer α} (h : s.taker? id = some k)
    (hoffer : k.taken = some offer) : (s.dismiss id).inFlight.length < s.inFlight.length := by
  obtain ⟨hmem, hid⟩ := mem_takers_of_taker? h
  have hlt := filterMap_length_lt (p := fun t => t.id ≠ id) hmem (by simp [hid]) hoffer
  simp only [inFlight, dismiss, List.length_append] at hlt ⊢
  omega

/-- A call that takes an offer adds it to what calls have taken. -/
theorem filterMap_taken_length_le (id : Nat) (offer : Offer α) {ks : List (Taker α)}
    (hids : (ks.map Taker.id).Nodup) :
    ((ks.map fun k => if k.id = id then { k with taken := some offer } else k).filterMap
      Taker.taken).length ≤ (ks.filterMap Taker.taken).length + 1 := by
  induction ks with
  | nil => simp
  | cons k ks ih =>
    simp only [List.map_cons, List.nodup_cons] at hids
    obtain ⟨hk, hks⟩ := hids
    by_cases hid : k.id = id
    · -- ids are distinct, so no further call is changed
      have hrest :
          (ks.map fun k => if k.id = id then { k with taken := some offer } else k) = ks := by
        refine (List.map_congr_left fun x hx => if_neg fun hxid => hk ?_).trans (List.map_id ks)
        rw [hid, ← hxid]
        exact List.mem_map_of_mem hx
      rw [List.map_cons, hrest, if_pos hid]
      cases htaken : k.taken <;> simp [htaken]
    · have := ih hks
      rw [List.map_cons, if_neg hid]
      cases htaken : k.taken <;> simp only [List.filterMap_cons, htaken, List.length_cons] <;> omega

theorem mem_inFlight_of_take {id : Nat} {offer o : Offer α} {queue : List (Offer α)}
    (hqueue : s.queue = offer :: queue)
    (ho : o ∈ queue ++ (s.takers.map fun k =>
      if k.id = id then { k with taken := some offer } else k).filterMap Taker.taken) :
    o ∈ s.inFlight := by
  rw [inFlight, hqueue]
  rcases List.mem_append.mp ho with ho | ho
  · exact List.mem_append_left _ (List.mem_cons_of_mem _ ho)
  · obtain ⟨k, hk, htaken⟩ := List.mem_filterMap.mp ho
    obtain ⟨k, hmem, rfl⟩ := List.mem_map.mp hk
    split at htaken
    · obtain rfl : offer = o := by simpa using htaken
      exact List.mem_append_left _ List.mem_cons_self
    · exact List.mem_append_right _ (List.mem_filterMap.mpr ⟨k, hmem, htaken⟩)

/-! ## Steps -/

theorem Sound.close (hs : s.Sound) (hacknowledged : s.unacknowledged = 0) : s.close.Sound := by
  have hle := hs.inFlight_le
  cases hdone : s.done with
  | true =>
    rw [close_of_done hdone]
    exact ⟨hs.ids, hle, hs.unacknowledged_le, fun h => by simp [Producer.rests] at h⟩
  | false =>
    rw [close_of_open hdone]
    refine ⟨hs.ids, ?_, ?_, fun h => by simp [Producer.rests] at h⟩
    · simp only [inFlight, push, List.length_append, List.length_singleton] at hle ⊢
      omega
    · simp only [push]; omega

theorem Sound.continueWith (hs : s.Sound) (hacknowledged : s.unacknowledged = 0) (rest : List α)
    (page : Page α) : (s.continueWith rest page).Sound := by
  unfold Stream.continueWith
  split
  · split
    · exact ⟨hs.ids, hs.inFlight_le, hs.unacknowledged_le, fun _ => hacknowledged⟩
    · exact ⟨hs.ids, hs.inFlight_le, hs.unacknowledged_le, fun _ => hacknowledged⟩
  · split
    · exact hs.close hacknowledged
    · exact ⟨hs.ids, hs.inFlight_le, hs.unacknowledged_le, fun _ => hacknowledged⟩

theorem Sound.fail (hs : s.Sound) (hacknowledged : s.unacknowledged = 0) (e : Outside) :
    (s.fail e).Sound := by
  rcases fail_cases s e with h | ⟨failure, h⟩
  · rw [h]
    exact ⟨hs.ids, hs.inFlight_le, hs.unacknowledged_le, fun _ => hacknowledged⟩
  · rw [h]
    exact Sound.close ⟨hs.ids, hs.inFlight_le, hs.unacknowledged_le, hs.rests⟩ hacknowledged

theorem Sound.dismiss (hs : s.Sound) (id : Nat) : (s.dismiss id).Sound where
  ids := hs.ids.sublist (List.filter_sublist.map _)
  inFlight_le := Nat.le_trans (inFlight_dismiss_sublist s id).length_le hs.inFlight_le
  unacknowledged_le := hs.unacknowledged_le
  rests := hs.rests

/-- Every step keeps a stream sound. -/
theorem Sound.step (hs : s.Sound) (h : Step listing first s action t reply) : t.Sound := by
  have hle := hs.inFlight_le
  cases h with
  | begin hp => exact ⟨hs.ids, hle, hs.unacknowledged_le, fun _ => hs.rests (by rw [hp]; rfl)⟩
  | page hp hpage => exact hs.continueWith (hs.rests (by rw [hp]; rfl)) _ _
  | fault hp he => exact hs.fail (hs.rests (by rw [hp]; rfl)) _
  | put hp hqueue =>
    have hu := hs.rests (by rw [hp]; rfl)
    refine ⟨hs.ids, ?_, ?_, fun h => by simp [Producer.rests] at h⟩
    · simp only [inFlight, push, List.length_append, List.length_singleton] at hle ⊢
      omega
    · simp only [push]; omega
  | withdraw hp => exact ⟨hs.ids, hle, hs.unacknowledged_le, fun _ => hs.rests (by rw [hp]; rfl)⟩
  | hand hp => exact ⟨hs.ids, hle, hs.unacknowledged_le, fun h => by simp [Producer.rests] at h⟩
  | leave hp => exact ⟨hs.ids, hle, hs.unacknowledged_le, fun h => by simp [Producer.rests] at h⟩
  | goOn hp hdone hu => exact hs.continueWith hu _ _
  | killEarly => exact ⟨hs.ids, hle, hs.unacknowledged_le, fun h => by simp [Producer.rests] at h⟩
  | kill => exact ⟨hs.ids, hle, hs.unacknowledged_le, fun h => by simp [Producer.rests] at h⟩
  | refuse => exact hs
  | @request id hid =>
    refine ⟨?_, by simpa [inFlight] using hle, hs.unacknowledged_le, hs.rests⟩
    have hnew : id ∉ s.takers.map Taker.id := by
      intro hmem
      obtain ⟨k, hk, hkid⟩ := List.mem_map.mp hmem
      exact absurd (List.find?_eq_none.mp hid k hk) (by simp [hkid])
    rw [List.map_append, List.nodup_append]
    refine ⟨hs.ids, by simp, fun a ha b hb hab => hnew ?_⟩
    obtain rfl : b = id := by simpa using hb
    exact hab ▸ ha
  | @take id _ offer _ ht hqueue =>
    refine ⟨?_, ?_, hs.unacknowledged_le, hs.rests⟩
    · rw [List.map_map]
      refine (List.map_congr_left fun k _ => ?_).symm ▸ hs.ids
      simp only [Function.comp]
      split <;> rfl
    · have := filterMap_taken_length_le id offer hs.ids
      simp only [inFlight, hqueue, List.length_append, List.length_cons] at hle this ⊢
      omega
  | release => exact hs.dismiss _
  | deliver ht htaken hn =>
    have hlt := inFlight_dismiss_lt ht htaken
    have hone := hs.unacknowledged_le
    refine ⟨(hs.dismiss _).ids, ?_, ?_, fun h => absurd (hs.rests h) (by omega)⟩
    · simp only [inFlight] at hlt hle ⊢; omega
    · simp only; omega
  | finish ht htaken hn =>
    have hlt := inFlight_dismiss_lt ht htaken
    have hone := hs.unacknowledged_le
    refine ⟨(hs.dismiss _).ids, ?_, ?_, fun h => absurd (hs.rests h) (by omega)⟩
    · simp only [inFlight] at hlt hle ⊢; omega
    · simp only; omega
  | interrupt => exact hs.dismiss _
  | cancel => exact ⟨hs.ids, hle, hs.unacknowledged_le, hs.rests⟩
  | closeBare => exact ⟨hs.ids, hle, hs.unacknowledged_le, hs.rests⟩
  | close => exact ⟨hs.ids, hle, hs.unacknowledged_le, hs.rests⟩
  | settle => exact ⟨hs.ids, hle, hs.unacknowledged_le, hs.rests⟩

end Stream

end ApiClient
