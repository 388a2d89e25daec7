import ApiClient.Auth.Operation
import ApiClient.Proofs.Auth.Reading

/-!
# Filling gaps once

A resolver that loads its file when it is made adds variables to the environment that are not set
and that the file binds. From then on it removes what its operations are to remove, and does
nothing else to the environment.
-/

namespace ApiClient

open DotEnv (Extends)

namespace DotEnvFile

/-- A file gives a variable a value. -/
def Gives (file : DotEnvFile) (env : Environment) (name value : String) : Prop :=
  ∃ content, file = .present content ∧ DotEnv.Gives env content name value

/-- What becomes of an environment when a file is loaded into it. -/
def intoEnv (file : DotEnvFile) (env : Environment) : Environment :=
  match file with
  | .present content => if DotEnv.isDisabled env then env else (DotEnv.load env content).1
  | _ => env

theorem extends_intoEnv (file : DotEnvFile) (env : Environment) :
    Extends (file.Gives env) env (file.intoEnv env) := by
  unfold intoEnv
  split
  · rename_i content
    split
    · exact .refl env
    · exact (DotEnv.extends_load env content).mono fun name value h => ⟨content, rfl, h⟩
  · exact .refl env

end DotEnvFile

namespace Resolver

/-! ## Loading -/

/-- The surroundings that a step leaves. -/
def left {α : Type} : EStateM.Result Error Surroundings α → Surroundings
  | .ok _ w => w
  | .error _ w => w

@[simp] theorem left_ok {α : Type} (a : α) (w : Surroundings) : left (.ok a w) = w := rfl

@[simp] theorem left_error {α : Type} (e : Error) (w : Surroundings) :
    left (.error e w : EStateM.Result Error Surroundings α) = w := rfl

@[simp] theorem left_accept (x : Except CredentialError Credential) (w : Surroundings) :
    left ((accept x).run w) = w := by
  cases x <;> rfl

theorem readFile_run (r : Resolver) (w : Surroundings) : r.readFile.run w =
    match r.file with
    | .absent => .ok () w
    | .failing e => .error (.fault (.outside e)) w
    | .present content =>
      if DotEnv.isDisabled w.env then .ok () w
      else
        match DotEnv.load w.env content with
        | (env, none) => .ok () { w with env }
        | (env, some f) => .error (.fault f) { w with env } := by
  unfold readFile
  cases r.file with
  | absent => rfl
  | failing e => rfl
  | present content =>
    dsimp only
    rw [EStateM.run_bind, EStateM.run_get]
    dsimp only
    split
    · rfl
    · obtain ⟨env, _ | f⟩ := DotEnv.load w.env content <;> rfl

theorem left_readFile (r : Resolver) (w : Surroundings) :
    (left (r.readFile.run w)).env = r.file.intoEnv w.env := by
  rw [readFile_run]
  unfold DotEnvFile.intoEnv
  cases r.file with
  | absent => rfl
  | failing e => rfl
  | present content =>
    dsimp only
    split
    · rfl
    · obtain ⟨env, _ | f⟩ := DotEnv.load w.env content <;> rfl

theorem tryCatch_run {α : Type} (x : Setup α) (handle : Error → Setup α) (w : Surroundings) :
    (tryCatch x handle).run w =
      match x.run w with
      | .ok a w' => .ok a w'
      | .error e w' => (handle e).run w' := by
  show EStateM.tryCatch x handle w = _
  unfold EStateM.tryCatch EStateM.run
  cases x w <;> rfl

theorem load_run (r : Resolver) (w : Surroundings) : r.load.run w =
    if r.loaded then .ok r w
    else
      match r.readFile.run w with
      | .ok _ t =>
        .ok { r with loaded := true }
          { t with
            log := t.log ++ r.levels.record loggerName debugLevel
              "Loaded .env file for credential lookup" }
      | .error e t =>
        if isHarmless e then
          match e.wording with
          | .ok text =>
            .ok { r with loaded := true }
              { t with
                log := t.log ++ r.levels.record loggerName warningLevel
                  ("Could not load .env file: " ++ text) }
          | .error e => .error e t
        else .error e t := by
  unfold load
  split
  · rfl
  · rw [EStateM.run_bind, tryCatch_run, EStateM.run_bind]
    cases r.readFile.run w with
    | ok _ t => rfl
    | error e t =>
      dsimp only
      cases isHarmless e with
      | false => rfl
      | true => cases e.wording <;> rfl

theorem load_of_loaded {r : Resolver} (h : r.loaded = true) (w : Surroundings) :
    r.load.run w = .ok r w := by
  rw [load_run, if_pos h]

/-- Loading that succeeds is done once and for all. -/
theorem load_ok {r r' : Resolver} {w w' : Surroundings} (hnot : r.loaded = false)
    (h : r.load.run w = .ok r' w') : r'.loaded = true ∧ w'.env = r.file.intoEnv w.env := by
  rw [← left_readFile]
  rw [load_run, hnot, if_neg Bool.false_ne_true] at h
  cases hread : r.readFile.run w with
  | ok _ t =>
    rw [hread] at h
    cases h
    exact ⟨rfl, rfl⟩
  | error e t =>
    rw [hread] at h
    dsimp only at h
    split at h
    · split at h
      · cases h
        exact ⟨rfl, rfl⟩
      · cases h
    · cases h

theorem make_ok {levels : Levels} {file : DotEnvFile} {r : Resolver} {w t : Surroundings}
    (h : (make levels file true).run w = .ok r t) :
    r.loaded = true ∧ t.env = file.intoEnv w.env :=
  load_ok (r := { file, loaded := false, levels }) rfl h

/-! ## Operations -/

/-- An environment without the variables that a read removes, which it does if all of them are
set. -/
def remove (env : Environment) (names : List String) : Environment :=
  if names.all fun name => (env.get? name).isSome then without env names else env

theorem remove_nil (env : Environment) : remove env [] = env := by
  simp [remove]

theorem step_of_read {α : Type} {s : Resolver × Surroundings} {op : Operation} {x : Setup α}
    (h : s.1.perform op = do let _ ← x; return s.1) : step s op = (s.1, left (x.run s.2)) := by
  rw [step, h, EStateM.run_bind]
  cases x.run s.2 <;> rfl

/-- A resolver that has loaded its file only removes variables. -/
theorem step_spec {s : Resolver × Surroundings} (hloaded : s.1.loaded = true) (op : Operation) :
    (step s op).1.loaded = true ∧ (step s op).2.env = remove s.2.env op.removed := by
  obtain ⟨r, w⟩ := s
  cases op with
  | load file =>
    -- the file may be another one by now: what counts is that one has been loaded
    have hload : (r.perform (.load file)).run w = .ok { r with file } w :=
      load_of_loaded (r := { r with file }) hloaded w
    rw [step, hload]
    exact ⟨hloaded, (remove_nil _).symm⟩
  | value name required removes =>
    rw [step_of_read rfl, resolve_run, found?, Operation.removed]
    refine ⟨hloaded, ?_⟩
    cases name.filter (· ≠ "") with
    | none => cases required <;> cases removes <;> simp [remove]
    | some n =>
      cases hvalue : w.env.get? n <;> cases required <;> cases removes <;>
        simp [remove, hvalue, unset_eq_without]
  | token removes =>
    rw [step_of_read rfl, resolveToken_run]
    refine ⟨hloaded, ?_⟩
    cases hvalue : w.env.get? tokenName <;> cases removes <;>
      simp [remove, Operation.removed, hvalue, unset_eq_without]
  | key removes =>
    rw [step_of_read rfl, resolveKey_run]
    refine ⟨hloaded, ?_⟩
    cases hkeyId : w.env.get? keyIdName <;> cases hsecret : w.env.get? keySecretName <;>
      cases removes <;>
      simp [remove, Operation.removed, hkeyId, hsecret, unset_unset_eq_without]

theorem serve_append (s : Resolver × Surroundings) (before rest : List Operation) :
    serve s (before ++ rest) = serve (serve s before) rest :=
  List.foldl_append

theorem serve_spec {s : Resolver × Surroundings} (hloaded : s.1.loaded = true)
    (ops : List Operation) : (serve s ops).1.loaded = true ∧
      (serve s ops).2.env = ops.foldl (fun env op => remove env op.removed) s.2.env := by
  induction ops generalizing s with
  | nil => exact ⟨hloaded, rfl⟩
  | cons op ops ih =>
    obtain ⟨hstep, henv⟩ := step_spec hloaded op
    rw [List.foldl_cons, ← henv]
    exact ih hstep

theorem exists_remove_eq (env : Environment) (names : List String) :
    ∃ removed, removed ⊆ names ∧ remove env names = without env removed := by
  rw [remove]
  split
  · exact ⟨names, List.Subset.refl _, rfl⟩
  · exact ⟨[], List.nil_subset _, (without_nil env).symm⟩

theorem exists_foldl_remove_eq (env : Environment) (ops : List Operation) :
    ∃ removed, removed ⊆ ops.flatMap Operation.removed ∧
      ops.foldl (fun env op => remove env op.removed) env = without env removed := by
  induction ops generalizing env with
  | nil => exact ⟨[], List.Subset.refl _, (without_nil env).symm⟩
  | cons op ops ih =>
    obtain ⟨first, hfirst, hremove⟩ := exists_remove_eq env op.removed
    obtain ⟨others, hothers, hrest⟩ := ih (remove env op.removed)
    refine ⟨first ++ others, ?_, ?_⟩
    · rw [List.flatMap_cons]
      exact List.append_subset.mpr
        ⟨List.subset_append_of_subset_left _ hfirst, List.subset_append_of_subset_right _ hothers⟩
    · rw [List.foldl_cons, hrest, hremove, without_without]

/-- A resolver that is made with its file loaded has filled gaps of the environment with what the
file gives: all of them, if loading is turned on and does not fail. From then on, whatever is asked
of it, variables only go, and only those that are to be removed. -/
theorem file_fills_gaps_once {levels : Levels} {file : DotEnvFile} {r : Resolver}
    {w t : Surroundings} (hmade : (make levels file true).run w = .ok r t) :
    Extends (file.Gives w.env) w.env t.env ∧
    (∀ content, file = .present content → DotEnv.isDisabled w.env = false →
      (DotEnv.load w.env content).2 = none → ∀ name value, w.env.get? name = none →
        DotEnv.Gives w.env content name value → t.env.get? name = some value) ∧
    ∀ before rest : List Operation,
      let env := (serve (r, t) before).2.env
      let env' := (serve (r, t) (before ++ rest)).2.env
      env' = rest.foldl (fun env op => remove env op.removed) env ∧
      (∃ removed, removed ⊆ rest.flatMap Operation.removed ∧ env' = without env removed) ∧
      (∀ name value, env.get? name = some value → name ∉ rest.flatMap Operation.removed →
        env'.get? name = some value) ∧
      ∀ name, env.get? name = none → env'.get? name = none := by
  obtain ⟨hloaded, hloadedInto⟩ := make_ok hmade
  refine ⟨?_, ?_, fun before rest => ?_⟩
  · rw [hloadedInto]
    exact file.extends_intoEnv w.env
  · rintro content rfl hon hok name value hnone hgives
    rw [hloadedInto, DotEnvFile.intoEnv, hon]
    exact DotEnv.get?_load hok hnone hgives
  · intro env env'
    obtain ⟨hbefore, -⟩ := serve_spec (s := (r, t)) hloaded before
    have hrest : env' = rest.foldl (fun env op => remove env op.removed) env := by
      show (serve (r, t) (before ++ rest)).2.env = _
      rw [serve_append]
      exact (serve_spec hbefore rest).2
    obtain ⟨removed, hremoved, heq⟩ := exists_foldl_remove_eq env rest
    have hwithout : env' = without env removed := hrest.trans heq
    refine ⟨hrest, ⟨removed, hremoved, hwithout⟩, fun name value hvalue hname => ?_,
      fun name hnone => ?_⟩
    · rw [hwithout, get?_without, if_neg fun hmem => hname (hremoved hmem), hvalue]
    · rw [hwithout, get?_without, hnone, ite_self]

/-- The token of the environment stays, and the key of the file is gone once it was read, also if
the file is asked for again. -/
theorem file_fills_gaps_once_of_key :
    let content := Text.Utf8.encode
      "ANEXIA_TOKEN=other\nANEXIA_KEY_ID=key\nANEXIA_KEY_SECRET=s3cret\n".toList
    let w : Surroundings := { env := [(tokenName, "token")], log := [] }
    let r : Resolver := { file := .present content, loaded := true, levels := [] }
    let t : Surroundings :=
      { env := [(tokenName, "token"), (keyIdName, "key"), (keySecretName, "s3cret")], log := [] }
    let ops := [.key true, .load (.present content), .value (some keySecretName) false false]
    (make [] (.present content) true).run w = .ok r t ∧
      (serve (r, t) [.key true]).2.env.get? keySecretName = none ∧
      (serve (r, t) ops).2.env.get? keySecretName = none ∧
      (serve (r, t) ops).2.env.get? tokenName = some "token" := by
  intro content w r t ops
  have hfill : DotEnv.load w.env content = (t.env, none) := by decide +kernel
  have hread : (readFile { r with loaded := false }).run w = .ok () t := by
    rw [readFile_run]
    dsimp only [r]
    rw [if_neg (by decide), hfill]
  have hmade : (make [] (.present content) true).run w = .ok r t := by
    show (load { r with loaded := false }).run w = _
    rw [load_run, hread]
    rfl
  have hgone : (serve (r, t) [.key true]).2.env.get? keySecretName = none := by decide +kernel
  obtain ⟨-, -, hserved⟩ := file_fills_gaps_once hmade
  obtain ⟨-, -, -, hstays⟩ := hserved [.key true] (ops.drop 1)
  obtain ⟨-, -, hkept, -⟩ := hserved [] ops
  exact ⟨hmade, hgone, hstays keySecretName hgone, hkept tokenName "token" rfl (by decide)⟩

end Resolver

end ApiClient
