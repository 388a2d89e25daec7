import ApiClient.Auth.Resolver
import ApiClient.Proofs.Auth.Variables

/-!
# Reading credentials

What a resolver returns, removes and logs when it reads a variable, a token or a key. The variables
of a credential are removed before the credential is made of their values. So a read that removes
them is all or nothing unless a value is empty: then it fails, and the variables are gone.
-/

namespace ApiClient

namespace Resolver

/-- The variable that is read by a name, if it is set. The empty name is that of no variable. -/
def found? (env : Environment) (name : Option String) : Option (String × String) :=
  (name.filter (· ≠ "")).bind fun name => (env.get? name).map fun value => (name, value)

/-- The log after a variable that is set was read. -/
def noted (r : Resolver) (log : List LogRecord) (name : String) : List LogRecord :=
  log ++ r.levels.record loggerName debugLevel
    ("Using credential from environment variable " ++ name)

theorem resolve_run (r : Resolver) (name : Option String) (required removes : Bool)
    (w : Surroundings) : (r.resolve name required removes).run w =
      match found? w.env name with
      | some (name, value) =>
        .ok (some value)
          { w with
            env := if removes then w.env.unset name else w.env
            log := r.noted w.log name }
      | none =>
        if required then .error (.credentialMissing (.ofVariable name)) w else .ok none w := by
  simp only [resolve, EStateM.run_bind, EStateM.run_get]
  rw [← found?]
  cases found? w.env name with
  | some v => cases removes <;> rfl
  | none => cases required <;> rfl

theorem require_run (r : Resolver) {name : String} (hname : name ≠ "") (removes : Bool)
    (w : Surroundings) : (r.require name removes).run w =
      match w.env.get? name with
      | some value =>
        .ok value
          { w with
            env := if removes then w.env.unset name else w.env
            log := r.noted w.log name }
      | none => .error (.credentialMissing (.ofVariable (some name))) w := by
  have hfound : found? w.env (some name) = (w.env.get? name).map fun value => (name, value) := by
    simp [found?, Option.filter, hname]
  rw [require, EStateM.run_bind, resolve_run, hfound]
  cases w.env.get? name <;> rfl

/-- A token is what its variable has, unless that is empty, and the variable is removed in either
case. -/
theorem resolveToken_run (r : Resolver) (removes : Bool) (w : Surroundings) :
    (r.resolveToken removes).run w =
      match w.env.get? tokenName with
      | none => .error (.credentialMissing (.ofVariable (some tokenName))) w
      | some token =>
        (accept (Credential.ofToken token)).run
          { w with
            env := if removes then w.env.unset tokenName else w.env
            log := r.noted w.log tokenName } := by
  rw [resolveToken, EStateM.run_bind, require_run r (by decide)]
  cases w.env.get? tokenName <;> rfl

theorem resolveKey_run (r : Resolver) (removes : Bool) (w : Surroundings) :
    (r.resolveKey removes).run w =
      match w.env.get? keyIdName, w.env.get? keySecretName with
      | none, _ => .error (.credentialMissing (.ofVariable (some keyIdName))) w
      | some _, none =>
        .error (.credentialMissing (.ofVariable (some keySecretName)))
          { w with log := r.noted w.log keyIdName }
      | some keyId, some secret =>
        (accept (Credential.ofKey keyId secret)).run
          { w with
            env := if removes then (w.env.unset keyIdName).unset keySecretName else w.env
            log := r.noted (r.noted w.log keyIdName) keySecretName } := by
  rw [resolveKey, EStateM.run_bind, require_run r (by decide)]
  cases w.env.get? keyIdName with
  | none => rfl
  | some keyId =>
    -- the first look-up removes nothing, so that the second one is in the same environment
    dsimp only
    rw [EStateM.run_bind, require_run r (by decide)]
    simp only [Bool.false_eq_true, if_false]
    cases w.env.get? keySecretName with
    | none => rfl
    | some secret => cases removes <;> rfl

/-! ## Reading with removal -/

/-- The environment without some variables. -/
def without (env : Environment) (names : List String) : Environment :=
  env.filter fun v => v.1 ∉ names

/-- What a read of the variables `names` comes to is all or nothing: it returns a credential `made`
of their values and removes just these variables, or it fails and leaves the environment as it
was. -/
def AllOrNothing (env : Environment) (names : List String) (made : Credential → Prop) :
    EStateM.Result Error Surroundings Credential → Prop
  | .ok c w => made c ∧ w.env = without env names
  | .error _ w => w.env = env

/-- A credential is made of the variable of the token. -/
def MadeOfToken (env : Environment) (c : Credential) : Prop :=
  ∃ token, env.get? tokenName = some token ∧ c = .bearer token

/-- A credential is made of the variables of the key. -/
def MadeOfKey (env : Environment) (c : Credential) : Prop :=
  ∃ keyId secret, env.get? keyIdName = some keyId ∧ env.get? keySecretName = some secret ∧
    c = .signature keyId secret

variable {env : Environment} {names : List String} {made : Credential → Prop} {w : Surroundings}

theorem get?_without (env : Environment) (names : List String) (n : String) :
    (without env names).get? n = if n ∈ names then none else env.get? n := by
  have h := Environment.get?_filter (fun m => m ∉ names) env n
  by_cases hn : n ∈ names
  · simpa [without, hn] using h
  · simpa [without, hn] using h

@[simp] theorem without_nil (env : Environment) : without env [] = env := by
  simp [without]

theorem without_without (env : Environment) (a b : List String) :
    without (without env a) b = without env (a ++ b) := by
  simp only [without, List.filter_filter]
  congr 1
  funext v
  simp [Bool.and_comm]

theorem unset_eq_without (env : Environment) (name : String) :
    env.unset name = without env [name] := by
  simp [Environment.unset, without]

theorem unset_unset_eq_without (env : Environment) (a b : String) :
    (env.unset a).unset b = without env [a, b] := by
  rw [unset_eq_without, unset_eq_without, without_without]
  rfl

/-- Once its variables are removed, a read is all or nothing only if there is a credential. -/
theorem allOrNothing_accept_iff {x : Except CredentialError Credential} {name value : String}
    (hname : name ∈ names) (hset : env.get? name = some value)
    (hremoved : w.env = without env names) :
    AllOrNothing env names made ((accept x).run w) ↔ ∃ c, x = .ok c ∧ made c := by
  cases x with
  | ok c =>
    show made c ∧ w.env = without env names ↔ _
    simp [hremoved]
  | error e =>
    show w.env = env ↔ _
    have hgone : (without env names).get? name = none := by rw [get?_without, if_pos hname]
    constructor
    · intro hsame
      rw [← hremoved, hsame, hset] at hgone
      cases hgone
    · rintro ⟨c, hc, -⟩
      cases hc

/-- Reading a token or a key and removing its variables is all or nothing exactly if no value that
it reads is empty. Otherwise the read fails and its variables are removed. -/
theorem removal_whole_iff (r : Resolver) (w : Surroundings) :
    (AllOrNothing w.env [tokenName] (MadeOfToken w.env) ((r.resolveToken true).run w) ↔
      w.env.get? tokenName ≠ some "") ∧
    (AllOrNothing w.env [keyIdName, keySecretName] (MadeOfKey w.env) ((r.resolveKey true).run w) ↔
      ¬ ∃ keyId secret, w.env.get? keyIdName = some keyId ∧
        w.env.get? keySecretName = some secret ∧ (keyId = "" ∨ secret = "")) ∧
    (w.env.get? tokenName = some "" →
      ∃ t, (r.resolveToken true).run w = .error (.credential .emptyToken) t ∧
        t.env = without w.env [tokenName]) ∧
    ∀ keyId secret, w.env.get? keyIdName = some keyId → w.env.get? keySecretName = some secret →
      keyId = "" ∨ secret = "" →
        ∃ t, (r.resolveKey true).run w = .error (.credential .emptyKey) t ∧
          t.env = without w.env [keyIdName, keySecretName] := by
  refine ⟨?_, ?_, fun htoken => ?_, fun keyId secret hkeyId hsecret hempty => ?_⟩
  · rw [resolveToken_run]
    cases htoken : w.env.get? tokenName with
    | none => simp [AllOrNothing]
    | some token =>
      dsimp only
      rw [allOrNothing_accept_iff List.mem_cons_self htoken (unset_eq_without _ _)]
      by_cases hempty : token = "" <;> simp [Credential.ofToken, MadeOfToken, htoken, hempty]
  · rw [resolveKey_run]
    cases hkeyId : w.env.get? keyIdName with
    | none => simp [AllOrNothing]
    | some keyId =>
      cases hsecret : w.env.get? keySecretName with
      | none => simp [AllOrNothing]
      | some secret =>
        dsimp only
        rw [allOrNothing_accept_iff List.mem_cons_self hkeyId (unset_unset_eq_without _ _ _)]
        by_cases hempty : keyId = "" ∨ secret = "" <;>
          simp [Credential.ofKey, MadeOfKey, hkeyId, hsecret, hempty]
  · rw [resolveToken_run, htoken]
    exact ⟨_, rfl, unset_eq_without _ _⟩
  · rw [resolveKey_run, hkeyId, hsecret]
    dsimp only
    rw [Credential.ofKey, if_pos hempty]
    exact ⟨_, rfl, unset_unset_eq_without _ _ _⟩

/-- The name of the key is empty, so that the only copy of its secret is lost. -/
theorem removal_of_empty_keyId :
    let r : Resolver := { file := .absent, loaded := false, levels := [] }
    let w : Surroundings := { env := [(keyIdName, ""), (keySecretName, "s3cret")], log := [] }
    w.env.get? keyIdName = some "" ∧ w.env.get? keySecretName = some "s3cret" ∧
      ¬ AllOrNothing w.env [keyIdName, keySecretName] (MadeOfKey w.env)
        ((r.resolveKey true).run w) ∧
      ∃ t, (r.resolveKey true).run w = .error (.credential .emptyKey) t ∧ t.env = [] := by
  intro r w
  have hkeyId : w.env.get? keyIdName = some "" := by decide
  have hsecret : w.env.get? keySecretName = some "s3cret" := by decide
  obtain ⟨-, hwhole, -, hlost⟩ := removal_whole_iff r w
  refine ⟨hkeyId, hsecret, ?_, hlost "" "s3cret" hkeyId hsecret (.inl rfl)⟩
  rw [hwhole, not_not]
  exact ⟨"", "s3cret", hkeyId, hsecret, .inl rfl⟩

end Resolver

end ApiClient
