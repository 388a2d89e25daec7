import ApiClient.Auth.Signature
import ApiClient.Proofs.Http.Body
import ApiClient.Proofs.Http.Headers

/-!
# Edits of a request

What an edit that succeeds has done, step by step.
-/

namespace ApiClient.Edit

variable {α β : Type} {r t : Request}

/-- Two steps in a row succeed if the first one does, and the second one after it. -/
theorem bind_eq_ok {x : Edit α} {f : α → Edit β} {b : β} :
    (x >>= f).run r = .ok b t ↔ ∃ a s, x.run r = .ok a s ∧ (f a).run s = .ok b t :=
  run_bind_eq_ok

theorem pure_eq_ok {a b : α} : (pure a : Edit α).run r = .ok b t ↔ a = b ∧ r = t := by
  simp

theorem get_bind {f : Request → Edit β} : (get >>= f).run r = (f r).run r := rfl

theorem ofExcept_eq_ok {x : Except Fault α} {a : α} :
    (ofExcept x).run r = .ok a t ↔ x = .ok a ∧ t = r := by
  cases x with
  | ok b => simp [ofExcept, eq_comm]
  | error e =>
    constructor
    · intro h; cases h
    · rintro ⟨h, -⟩; cases h

theorem ofExcept_bind_eq_ok {x : Except Fault α} {f : α → Edit β} {b : β} :
    (ofExcept x >>= f).run r = .ok b t ↔ ∃ a, x = .ok a ∧ (f a).run r = .ok b t := by
  rw [bind_eq_ok]
  constructor
  · rintro ⟨a, s, hs, h⟩
    obtain ⟨ha, rfl⟩ := ofExcept_eq_ok.mp hs
    exact ⟨a, ha, h⟩
  · rintro ⟨a, ha, h⟩
    exact ⟨a, r, ofExcept_eq_ok.mpr ⟨ha, rfl⟩, h⟩

theorem setHeader_of_ok {name value : String} {headers : Headers}
    (hset : r.headers.set name value = .ok headers) :
    (setHeader name value).run r = .ok () { r with headers } := by
  have hrequest : r.setHeader name value = .ok { r with headers } := by
    rw [Request.setHeader, hset]
  show EStateM.run (get >>= fun s : Request => _) r = _
  rw [EStateM.run_bind]
  simp only [EStateM.run_get, hrequest]
  rfl

/-- A header field that cannot be written is not set. -/
theorem setHeader_of_error {name value : String} {e : Text.EncodeError}
    (hset : r.headers.set name value = .error e) :
    (setHeader name value).run r = .error (.encode e) r := by
  have hrequest : r.setHeader name value = .error (.encode e) := by
    rw [Request.setHeader, hset]
  show EStateM.run (get >>= fun s : Request => _) r = _
  rw [EStateM.run_bind]
  simp only [EStateM.run_get, hrequest]
  rfl

/-- Setting a header field changes the header fields only. -/
theorem setHeader_eq_ok {name value : String} :
    (setHeader name value).run r = .ok () t ↔
      ∃ headers, r.headers.set name value = .ok headers ∧ t = { r with headers } := by
  cases hset : r.headers.set name value with
  | ok headers =>
    rw [setHeader_of_ok hset]
    simp [eq_comm]
  | error e =>
    rw [setHeader_of_error hset]
    simp

theorem setHeader_bind_eq_ok {name value : String} {f : Unit → Edit β} {b : β} :
    (setHeader name value >>= f).run r = .ok b t ↔
      ∃ headers, r.headers.set name value = .ok headers ∧
        (f ()).run { r with headers } = .ok b t := by
  rw [bind_eq_ok]
  constructor
  · rintro ⟨⟨⟩, s, hs, h⟩
    obtain ⟨headers, hset, rfl⟩ := setHeader_eq_ok.mp hs
    exact ⟨headers, hset, h⟩
  · rintro ⟨headers, hset, h⟩
    exact ⟨(), _, setHeader_eq_ok.mpr ⟨headers, hset, rfl⟩, h⟩

/-- Setting an ASCII field succeeds. -/
theorem setHeader_bind_ok {name value : String} {f : Unit → Edit β} (hname : IsAscii name)
    (hvalue : IsAscii value) (h : ∀ headers, ∃ b t, (f ()).run { r with headers } = .ok b t) :
    ∃ b t, (setHeader name value >>= f).run r = .ok b t := by
  obtain ⟨b, t, hrun⟩ :=
    h (r.headers.put (Headers.row name value) (r.headers.takes_row hname hvalue))
  exact ⟨b, t, setHeader_bind_eq_ok.mpr ⟨_, Headers.set_of_isAscii _ hname hvalue, hrun⟩⟩

/-- A body that has been read is held, and nothing else has changed. -/
theorem body_eq_ok {bytes : List UInt8} (h : body.run r = .ok bytes t) :
    (r.read .blocking).1 = .ok bytes ∧ t = { r with body := .held bytes } := by
  have hrun : body.run r = (ofExcept (r.read .blocking).1).run (r.read .blocking).2 := rfl
  obtain ⟨hread, rfl⟩ := ofExcept_eq_ok.mp (hrun.symm.trans h)
  exact ⟨hread, Request.read_eq hread⟩

theorem body_ok {bytes : List UInt8} (h : (r.read .blocking).1 = .ok bytes) :
    ∃ t, body.run r = .ok bytes t := by
  have hrun : body.run r = (ofExcept (r.read .blocking).1).run (r.read .blocking).2 := rfl
  rw [hrun, h]
  exact ⟨_, rfl⟩

theorem header_run (name : String) (r : Request) : (header name).run r =
    .ok ((r.headers.get? name).getD "") { r with headers := r.headers.settle } := rfl

end ApiClient.Edit
