import ApiClient.Http.Response

/-!
# Reading bodies

A body that could be read is held in memory from then on, and reading it again gives the same bytes
in either mode. One without codings is left as it is.
-/

namespace ApiClient

theorem Body.held_of_read {mode : StreamMode} {body : Body} {bytes : List UInt8}
    (h : (body.read mode).1 = .ok bytes) : (body.read mode).2 = .held bytes := by
  unfold Body.read at h ⊢
  cases body with
  | held bytes => cases h; rfl
  | spent m => cases h
  | stream m chunks failure =>
    by_cases hmode : m = mode
    · simp only [hmode, ne_eq, not_true_eq_false, if_false] at h ⊢
      cases failure with
      | none => cases h; rfl
      | some e => cases h
    · simp only [ne_eq, hmode, not_false_eq_true, if_true] at h
      cases h

/-- A body without codings is left as it is. -/
theorem Body.decoded_nil [Platform] (body : Body) : body.decoded [] = .ok body := by
  cases body with
  | held bytes => simp [decoded, Platform.codings.undo_nil]
  | stream mode chunks failure => simp [decoded, Platform.codings.undo_nil]
  | spent mode => rfl

theorem mapError_eq_ok {ε δ α : Type} {f : ε → δ} {x : Except ε α} {a : α} :
    x.mapError f = .ok a ↔ x = .ok a := by
  cases x with
  | ok b =>
    show (.ok b : Except δ α) = .ok a ↔ _
    rw [Except.ok.injEq, Except.ok.injEq]
  | error e =>
    show (.error (f e) : Except δ α) = .ok a ↔ _
    exact iff_of_false (fun h => by cases h) fun h => by cases h

theorem bind_eq_ok {ε α β : Type} {x : Except ε α} {f : α → Except ε β} {b : β} :
    x >>= f = .ok b ↔ ∃ a, x = .ok a ∧ f a = .ok b := by
  cases x with
  | ok a =>
    constructor
    · exact fun h => ⟨a, rfl, h⟩
    · rintro ⟨_, ⟨⟩, h⟩
      exact h
  | error e =>
    constructor
    · intro h; cases h
    · rintro ⟨_, h, -⟩; cases h

/-- Two operations in a row succeed if the first one does, and the second one after it. -/
theorem run_bind_eq_ok {ε σ α β : Type} {x : EStateM ε σ α} {f : α → EStateM ε σ β} {b : β}
    {s t : σ} :
    (x >>= f).run s = .ok b t ↔ ∃ a u, x.run s = .ok a u ∧ (f a).run u = .ok b t := by
  rw [EStateM.run_bind]
  cases x.run s with
  | ok a u =>
    constructor
    · exact fun h => ⟨a, u, rfl, h⟩
    · rintro ⟨_, _, ⟨⟩, h⟩
      exact h
  | error e u =>
    constructor
    · intro h; cases h
    · rintro ⟨_, _, h, -⟩; cases h

/-- A request whose body has been read is the same but that its body is held. -/
theorem Request.read_eq {mode : StreamMode} {r : Request} {bytes : List UInt8}
    (h : (r.read mode).1 = .ok bytes) : (r.read mode).2 = { r with body := .held bytes } := by
  have hbody := Body.held_of_read (mapError_eq_ok.mp h)
  show { r with body := (r.body.read mode).2 } = _
  rw [hbody]

/-- A request whose body is held is read without a change. -/
theorem Request.read_of_held {mode : StreamMode} {r : Request} {bytes : List UInt8}
    (h : r.body = .held bytes) : r.read mode = (.ok bytes, r) := by
  obtain ⟨method, url, headers, body⟩ := r
  subst h
  rfl

/-- A response whose body is held is read without a change. -/
theorem Response.read_of_held {r : Response} {bytes : List UInt8} (h : r.body = .held bytes) :
    r.read = (.ok bytes, r) := by
  obtain ⟨status, headers, body⟩ := r
  subst h
  rfl

theorem Response.read_eq {r : Response} {bytes : List UInt8} (h : r.read.1 = .ok bytes) :
    r.read.2 = { r with body := .held bytes } := by
  have hbody := Body.held_of_read (mapError_eq_ok.mp h)
  show { r with body := (r.body.read .async).2 } = _
  rw [hbody]

end ApiClient
