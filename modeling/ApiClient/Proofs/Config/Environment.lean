import ApiClient.Config
import ApiClient.Proofs.Auth.Gaps

/-!
# Credentials of the environment

The option for whatever credential the environment has looks for a token only. So with a key and no
token it does not find what is there (`Config.build_uses_present_iff`).
-/

namespace ApiClient.Config

open Resolver (tokenName keyIdName keySecretName MadeOfToken MadeOfKey)

/-! ## What is there -/

/-- The variable of the token is set and not empty. -/
def TokenPresent (env : Environment) : Prop :=
  ∃ token, env.get? tokenName = some token ∧ token ≠ ""

/-- The variables of the key are both set and not empty. -/
def KeyPresent (env : Environment) : Prop :=
  ∃ keyId secret, env.get? keyIdName = some keyId ∧ env.get? keySecretName = some secret ∧
    keyId ≠ "" ∧ secret ≠ ""

/-- What building comes to uses the credential that is there: there is a configuration with a
credential that is made of the variables, or none of the credentials is complete. -/
def UsesPresent (env : Environment) : EStateM.Result Error Surroundings Config → Prop
  | .ok config _ =>
    ∃ c, config.credential = some c ∧ (MadeOfToken env c ∨ MadeOfKey env c)
  | .error _ _ => ¬ (TokenPresent env ∨ KeyPresent env)

theorem not_tokenPresent_iff (env : Environment) :
    ¬ TokenPresent env ↔ env.get? tokenName = none ∨ env.get? tokenName = some "" := by
  unfold TokenPresent
  cases env.get? tokenName with
  | none => simp
  | some token => simp

/-! ## Building -/

variable {levels : Levels} {system : String} {file : DotEnvFile} {removes : Bool} {r : Resolver}
  {w t : Surroundings}

namespace Draft

/-- The first credential is set. -/
theorem useFirstCredential_run {d : Draft} (hnone : d.credential = none) (x : Setup Credential)
    (w : Surroundings) : (d.useCredential x).run w =
      match x.run w with
      | .ok c t => .ok { d with credential := some c } t
      | .error e t => .error e t := by
  rw [useCredential, EStateM.run_bind]
  cases x.run w with
  | error e t => rfl
  | ok c t =>
    dsimp only
    rw [setCredential, hnone]
    rfl

theorem finish_of_credential {d : Draft} {c : Credential} (hc : d.credential = some c)
    (system : String) : ∃ config, d.finish system = .ok config ∧ config.credential = some c := by
  unfold finish
  rw [if_neg (by simp [hc])]
  exact ⟨_, rfl, hc⟩

end Draft

/-- What options amount to before a credential is looked for: the resolver of a file, or the default
one, which takes the file that is found. -/
theorem exists_useResolver {options : List ClientOption}
    (hoptions : options = [.resolver file true false] ∨ options = [] ∧ file = w.found)
    (hmade : (Resolver.make levels file true).run w = .ok r t) : ∃ d : Draft, d.credential = none ∧
      (options.foldlM (Draft.apply levels) {} >>= Draft.useResolver levels).run w =
        .ok (r, d) t := by
  rcases hoptions with rfl | ⟨rfl, rfl⟩
  · refine ⟨{ resolver := some r }, rfl, ?_⟩
    rw [List.foldlM_cons, bind_assoc, EStateM.run_bind]
    have hresolver : (Draft.apply levels {} (.resolver file true false)).run w =
        .ok { resolver := some r } t := by
      rw [Draft.apply, EStateM.run_bind, hmade]
      rfl
    rw [hresolver]
    rfl
  · refine ⟨{ resolver := some r }, rfl, ?_⟩
    rw [List.foldlM_nil, pure_bind, Draft.useResolver, EStateM.run_bind, EStateM.run_get]
    dsimp only
    rw [EStateM.run_bind, hmade]
    rfl

/-- Building uses the token that the resolver finds. -/
theorem build_run {options : List ClientOption}
    (hoptions : options = [.resolver file true false] ∨ options = [] ∧ file = w.found)
    (hmade : (Resolver.make levels file true).run w = .ok r t) (system : String) (removes : Bool) :
    match (r.resolveToken removes).run t with
    | .ok c t' => ∃ config, config.credential = some c ∧
        (build levels system (options ++ [.credentialFromEnvironment removes])).run w =
          .ok config t'
    | .error e t' =>
      (build levels system (options ++ [.credentialFromEnvironment removes])).run w =
        .error e t' := by
  obtain ⟨d, hnone, hresolver⟩ := exists_useResolver hoptions hmade
  have hdraft : ((options ++ [ClientOption.credentialFromEnvironment removes]).foldlM
      (Draft.apply levels) {}).run w = (d.useCredential (r.resolveToken removes)).run t := by
    simp only [List.foldlM_append, List.foldlM_cons, List.foldlM_nil, bind_pure]
    show (options.foldlM (Draft.apply levels) {} >>=
      fun d => Draft.useResolver levels d >>= _).run w = _
    rw [← bind_assoc, EStateM.run_bind, hresolver]
  rw [build, EStateM.run_bind, hdraft, Draft.useFirstCredential_run hnone]
  cases (r.resolveToken removes).run t with
  | error e t' => rfl
  | ok c t' =>
    obtain ⟨config, hfinish, hcredential⟩ := Draft.finish_of_credential
      (d := { d with credential := some c }) rfl system
    refine ⟨config, hcredential, ?_⟩
    dsimp only
    rw [hfinish]
    rfl

/-- Without a token, building fails with the missing variable; with an empty one, with that; and
with any other, it makes a configuration with it. -/
theorem build_cases_of_token {options : List ClientOption}
    (hoptions : options = [.resolver file true false] ∨ options = [] ∧ file = w.found)
    (hmade : (Resolver.make levels file true).run w = .ok r t) (system : String) (removes : Bool) :
    let outcome := (build levels system (options ++ [.credentialFromEnvironment removes])).run w
    (t.env.get? tokenName = none ∧
      ∃ t', outcome = .error (.credentialMissing (.ofVariable (some tokenName))) t') ∨
    (t.env.get? tokenName = some "" ∧ ∃ t', outcome = .error (.credential .emptyToken) t') ∨
    ∃ token, t.env.get? tokenName = some token ∧ token ≠ "" ∧
      ∃ config t', outcome = .ok config t' ∧ config.credential = some (.bearer token) := by
  intro outcome
  have hrun := build_run hoptions hmade system removes
  rw [Resolver.resolveToken_run] at hrun
  cases htoken : t.env.get? tokenName with
  | none =>
    rw [htoken] at hrun
    exact Or.inl ⟨rfl, _, hrun⟩
  | some token =>
    rw [htoken] at hrun
    dsimp only at hrun
    by_cases hempty : token = ""
    · rw [Credential.ofToken, if_pos hempty] at hrun
      exact Or.inr (Or.inl ⟨congrArg some hempty, _, hrun⟩)
    · rw [Credential.ofToken, if_neg hempty] at hrun
      obtain ⟨config, hcredential, hrun⟩ := hrun
      exact Or.inr (Or.inr ⟨token, rfl, hempty, config, _, hrun, hcredential⟩)

/-- Whatever credential the environment has is used exactly if there is a token where there is a
key: the option looks for the token only. It fails with a missing variable as soon as there is none,
and with an empty token if that is what is set, also where the key is complete. -/
theorem build_uses_present_iff {options : List ClientOption}
    (hoptions : options = [.resolver file true false] ∨ options = [] ∧ file = w.found)
    (hmade : (Resolver.make levels file true).run w = .ok r t) (system : String) (removes : Bool) :
    let outcome := (build levels system (options ++ [.credentialFromEnvironment removes])).run w
    (UsesPresent t.env outcome ↔ (KeyPresent t.env → TokenPresent t.env)) ∧
    ((∃ config t', outcome = .ok config t') ↔ TokenPresent t.env) ∧
    (∀ config t', outcome = .ok config t' →
      ∃ token, t.env.get? tokenName = some token ∧ config.credential = some (.bearer token)) ∧
    ((∃ t', outcome = .error (.credentialMissing (.ofVariable (some tokenName))) t') ↔
      t.env.get? tokenName = none) ∧
    ((∃ t', outcome = .error (.credential .emptyToken) t') ↔ t.env.get? tokenName = some "") := by
  have hcases := build_cases_of_token hoptions hmade system removes
  dsimp only at hcases ⊢
  generalize (build levels system (options ++ [.credentialFromEnvironment removes])).run w = outcome
    at hcases ⊢
  rcases hcases with
    ⟨htoken, t', rfl⟩ | ⟨htoken, t', rfl⟩ | ⟨token, htoken, hfilled, config, t', rfl, hcredential⟩
  · have hnone : ¬ TokenPresent t.env := (not_tokenPresent_iff _).mpr (Or.inl htoken)
    simp [UsesPresent, hnone, htoken]
  · have hnone : ¬ TokenPresent t.env := (not_tokenPresent_iff _).mpr (Or.inr htoken)
    simp [UsesPresent, hnone, htoken]
  · have hpresent : TokenPresent t.env := ⟨token, htoken, hfilled⟩
    have huses : UsesPresent t.env (.ok config t') :=
      ⟨.bearer token, hcredential, Or.inl ⟨token, htoken, rfl⟩⟩
    simp [huses, hpresent, htoken, hfilled, hcredential]

/-- A file with a key is found: without a token it is not used, although it is complete. -/
theorem build_uses_present_of_key :
    let content := Text.Utf8.encode "ANEXIA_KEY_ID=key\nANEXIA_KEY_SECRET=s3cret\n".toList
    let w : Surroundings := { env := [], log := [], found := .present content }
    let r : Resolver := { file := .present content, loaded := true, levels := [] }
    let t : Surroundings := { w with env := [(keyIdName, "key"), (keySecretName, "s3cret")] }
    let outcome := (build [] "Linux" [.credentialFromEnvironment false]).run w
    (Resolver.make [] (.present content) true).run w = .ok r t ∧ KeyPresent t.env ∧
      ¬ UsesPresent t.env outcome ∧
      ∃ t', outcome = .error (.credentialMissing (.ofVariable (some tokenName))) t' := by
  intro content w r t outcome
  have hfill : DotEnv.load w.env content = (t.env, none) := by decide +kernel
  have hmade : (Resolver.make [] (.present content) true).run w = .ok r t := by
    show (Resolver.load { r with loaded := false }).run w = _
    rw [Resolver.load_run, Resolver.readFile_run]
    dsimp only [r]
    rw [if_neg (by decide), hfill]
    rfl
  have hkey : KeyPresent t.env := ⟨"key", "s3cret", by decide, by decide, by decide, by decide⟩
  have htoken : ¬ TokenPresent t.env := (not_tokenPresent_iff _).mpr (Or.inl (by decide))
  obtain ⟨huses, -, -, hmissing, -⟩ :=
    build_uses_present_iff (w := w) (.inr ⟨rfl, rfl⟩) hmade "Linux" false
  exact ⟨hmade, hkey, fun h => htoken (huses.mp h hkey), hmissing.mpr (by decide)⟩

end ApiClient.Config
