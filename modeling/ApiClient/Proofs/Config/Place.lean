import ApiClient.Proofs.Config.Options
import ApiClient.Proofs.Http.Body

/-!
# Where a configuration leads

The server of a configuration and what carries its requests are those of the options for them.
Every other option leaves the two alone, also one that reads from the environment.
-/

namespace ApiClient.Config.Draft

variable {levels : Levels} {o : ClientOption} {opts : List ClientOption} {d d' d'' : Draft}
  {w w' : Surroundings}

/-- Two drafts agree on the server and on what carries the requests. -/
structure SamePlace (d' d : Draft) : Prop where
  /-- The server. -/
  baseUrl : d'.baseUrl = d.baseUrl
  /-- What carries the requests. -/
  transport : d'.transport = d.transport

theorem SamePlace.trans (h : d''.SamePlace d') (h' : d'.SamePlace d) : d''.SamePlace d :=
  ⟨h.baseUrl.trans h'.baseUrl, h.transport.trans h'.transport⟩

theorem samePlace_of_useCredential {x : Setup Credential}
    (h : (d.useCredential x).run w = .ok d' w') : d'.SamePlace d := by
  obtain ⟨k, t, -, h⟩ := run_bind_eq_ok.mp h
  unfold setCredential at h
  cases hbefore : d.credential with
  | none =>
    rw [hbefore] at h
    cases h
    exact ⟨rfl, rfl⟩
  | some before =>
    rw [hbefore] at h
    dsimp only at h
    by_cases hkind : before.sameKind k = true
    · rw [if_pos hkind] at h
      cases h
      exact ⟨rfl, rfl⟩
    · rw [if_neg hkind] at h
      cases h

theorem samePlace_of_useResolver {r : Resolver}
    (h : (d.useResolver levels).run w = .ok (r, d') w') : d'.SamePlace d := by
  unfold useResolver at h
  cases hresolver : d.resolver with
  | some before =>
    rw [hresolver] at h
    cases h
    exact ⟨rfl, rfl⟩
  | none =>
    rw [hresolver] at h
    obtain ⟨found, t, -, h⟩ := run_bind_eq_ok.mp h
    obtain ⟨made, u, -, h⟩ := run_bind_eq_ok.mp h
    cases h
    exact ⟨rfl, rfl⟩

/-- An option leaves the server and the transport to the options for them. -/
theorem samePlace_of_apply (h : (d.apply levels o).run w = .ok d' w')
    (hserver : o.field ≠ .baseUrl) (htransport : o.field ≠ .transport) : d'.SamePlace d := by
  cases o with
  | token token => exact samePlace_of_useCredential h
  | key keyId secret => exact samePlace_of_useCredential h
  | tokenFromEnvironment removes | keyFromEnvironment removes =>
    obtain ⟨⟨r, d₁⟩, t, hresolver, h⟩ := run_bind_eq_ok.mp h
    exact (samePlace_of_useCredential h).trans (samePlace_of_useResolver hresolver)
  | baseUrl url => exact absurd rfl hserver
  | transport name => exact absurd rfl htransport
  | resolver file loads again =>
    obtain ⟨made, t, -, h⟩ := run_bind_eq_ok.mp h
    cases again with
    | true =>
      obtain ⟨loaded, u, -, h⟩ := run_bind_eq_ok.mp h
      cases h
      exact ⟨rfl, rfl⟩
    | false =>
      cases h
      exact ⟨rfl, rfl⟩
  | _ =>
    cases h
    exact ⟨rfl, rfl⟩

theorem samePlace_of_foldlM (h : (opts.foldlM (apply levels) d).run w = .ok d' w')
    (hplace : ∀ o ∈ opts, o.field ≠ .baseUrl ∧ o.field ≠ .transport) : d'.SamePlace d := by
  induction opts generalizing d w with
  | nil =>
    cases h
    exact ⟨rfl, rfl⟩
  | cons o opts ih =>
    obtain ⟨ho, hplace⟩ := List.forall_mem_cons.mp hplace
    rw [List.foldlM_cons] at h
    obtain ⟨d₁, t, happly, h⟩ := run_bind_eq_ok.mp h
    exact (ih h hplace).trans (samePlace_of_apply happly ho.1 ho.2)

end ApiClient.Config.Draft
