import Mathlib.Data.List.Forall2
import Mathlib.Data.Option.Basic
import ApiClient.Proofs.Auth.Gaps

/-!
# Secrets and the log

What a resolver logs does not depend on the values of credentials: in two environments that differ
in these only, whatever is asked of it, the records are the same (`Resolver.log_independent`). The
file may give other variables values made of the secrets, so that from then on the environments have
no more in common than the names of their variables, and these are all that the log shows.
-/

namespace ApiClient

/-- Two texts are refused alike as values: both have a zero character, or neither has. -/
def ZeroAlike (s t : List Char) : Prop := '\x00' ∈ s ↔ '\x00' ∈ t

namespace Environment

/-- Two environments have the same variables. -/
def SameNames (env env' : Environment) : Prop :=
  ∀ name, (env.get? name).isSome = (env'.get? name).isSome

/-- Two environments have the same variables, with the same values but for those of `names`. -/
structure DifferIn (names : List String) (env env' : Environment) : Prop where
  sameNames : SameNames env env'
  sameValues : ∀ name, name ∉ names → env.get? name = env'.get? name

/-- No value of `names` has a zero character, as no variable of a process has. -/
def ZeroFree (names : List String) (env : Environment) : Prop :=
  ∀ name ∈ names, ∀ value, env.get? name = some value → '\x00' ∉ value.toList

variable {env env' : Environment} {name value value' : String} {names : List String}

theorem SameNames.get?_cases (h : SameNames env env') (name : String) :
    (env.get? name = none ∧ env'.get? name = none) ∨
      ∃ value value', env.get? name = some value ∧ env'.get? name = some value' := by
  have hname := h name
  cases hvalue : env.get? name with
  | none =>
    rw [hvalue] at hname
    exact .inl ⟨rfl, Option.not_isSome_iff_eq_none.mp (by simp [← hname])⟩
  | some value =>
    rw [hvalue] at hname
    obtain ⟨value', hvalue'⟩ := Option.isSome_iff_exists.mp hname.symm
    exact .inr ⟨value, value', rfl, hvalue'⟩

theorem SameNames.concat (h : SameNames env env') (name value value' : String) :
    SameNames (env ++ [(name, value)]) (env' ++ [(name, value')]) := by
  intro n
  rw [get?_concat, get?_concat, Option.isSome_or, Option.isSome_or, h n]
  split <;> rfl

theorem SameNames.without (h : SameNames env env') (names : List String) :
    SameNames (Resolver.without env names) (Resolver.without env' names) := by
  intro n
  rw [Resolver.get?_without, Resolver.get?_without]
  split
  · rfl
  · exact h n

/-- A variable is refused for its name, or for a zero character in its value. -/
theorem set_alike (hnone : env.get? name = none) (hnone' : env'.get? name = none)
    (hzero : ZeroAlike value.toList value'.toList) :
    (∃ f, env.set name value = .error f ∧ env'.set name value' = .error f) ∨
    (env.set name value = .ok (env ++ [(name, value)]) ∧
      env'.set name value' = .ok (env' ++ [(name, value')])) := by
  have hcontains : value.toList.contains '\x00' = value'.toList.contains '\x00' := by
    rw [Bool.eq_iff_iff, List.contains_iff_mem, List.contains_iff_mem]
    exact hzero
  unfold set
  rw [hcontains]
  split
  · exact .inl ⟨_, rfl, rfl⟩
  · split
    · exact .inl ⟨_, rfl, rfl⟩
    · split
      · exact .inl ⟨_, rfl, rfl⟩
      · right
        rw [put, put, any_eq_false_of_get? hnone, any_eq_false_of_get? hnone']
        exact ⟨rfl, rfl⟩

end Environment

/-! ## Loading a file -/

namespace DotEnv

open Environment

variable {env env' : Environment} {values values' : Values}

/-- Two values, or none, that are refused alike. -/
def ValueAlike (value value' : Option String) : Prop :=
  Option.Rel (fun s t => ZeroAlike s.toList t.toList) value value'

/-- The same names with values that are refused alike. -/
def ValuesAlike (values values' : Values) : Prop :=
  List.Forall₂ (fun v v' => v.1 = v'.1 ∧ ValueAlike v.2 v'.2) values values'

theorem zeroAlike_interpolate {lookup lookup' : List Char → List Char → List Char}
    (hlookup : ∀ name default, ZeroAlike (lookup name default) (lookup' name default)) (fuel : Nat)
    (s : List Char) : ZeroAlike (interpolate lookup fuel s) (interpolate lookup' fuel s) := by
  unfold ZeroAlike at hlookup ⊢
  induction fuel generalizing s with
  | zero => simp [interpolate]
  | succ fuel ih =>
    cases s with
    | nil => simp [interpolate]
    | cons c rest =>
      unfold interpolate
      cases (if c = '$' then reference? rest else none) with
      | none =>
        rw [List.mem_cons, List.mem_cons, ih]
      | some reference =>
        obtain ⟨name, default, rest⟩ := reference
        rw [List.mem_append, List.mem_append, hlookup, ih]

theorem ValuesAlike.lookup (h : ValuesAlike values values') (name : String) :
    Option.Rel ValueAlike (values.lookup name) (values'.lookup name) := by
  induction h with
  | nil => exact .none
  | @cons v v' rest rest' hv hrest ih =>
    rw [List.lookup_cons, List.lookup_cons, hv.1]
    split
    · exact .some hv.2
    · exact ih

theorem ValuesAlike.set (h : ValuesAlike values values') (name : String)
    {value value' : Option String} (hvalue : ValueAlike value value') :
    ValuesAlike (values.set name value) (values'.set name value') := by
  induction h with
  | nil => exact .cons ⟨rfl, hvalue⟩ .nil
  | @cons v v' rest rest' hv hrest ih =>
    obtain ⟨n, old⟩ := v
    obtain ⟨n', old'⟩ := v'
    obtain rfl : n = n' := hv.1
    unfold Values.set
    split
    · exact .cons ⟨rfl, hvalue⟩ hrest
    · exact .cons hv ih

/-- Variables that differ in values without zero characters only are refused alike. -/
theorem valueAlike_get? {names : List String} (hdiffer : DifferIn names env env')
    (hzero : ZeroFree names env) (hzero' : ZeroFree names env') (name : String) :
    ValueAlike (env.get? name) (env'.get? name) := by
  by_cases hname : name ∈ names
  · rcases hdiffer.sameNames.get?_cases name with ⟨hnone, hnone'⟩ | ⟨value, value', hvalue, hvalue'⟩
    · rw [hnone, hnone']
      exact .none
    · rw [hvalue, hvalue']
      exact .some (iff_of_false (hzero name hname value hvalue) (hzero' name hname value' hvalue'))
  · rw [hdiffer.sameValues name hname]
    cases env'.get? name with
    | none => exact .none
    | some value => exact .some Iff.rfl

/-- What a reference stands for is refused alike if it is so for all variables. -/
theorem zeroAlike_resolve (henv : ∀ name, ValueAlike (env.get? name) (env'.get? name))
    (hvalues : ValuesAlike values values') (name default : List Char) :
    ZeroAlike (resolve env values name default) (resolve env' values' name default) := by
  have henv := henv (String.ofList name)
  have hfile := hvalues.lookup (String.ofList name)
  unfold resolve
  generalize env.get? (String.ofList name) = value, env'.get? (String.ofList name) = value'
    at henv ⊢
  cases henv with
  | some halike => exact halike
  | none =>
    generalize values.lookup (String.ofList name) = value,
      values'.lookup (String.ofList name) = value' at hfile ⊢
    cases hfile with
    | none => exact Iff.rfl
    | some halike =>
      cases halike with
      | none => exact Iff.rfl
      | some halike => exact halike

/-- The variables of a file are refused alike. -/
theorem valuesAlike_evaluate (henv : ∀ name, ValueAlike (env.get? name) (env'.get? name))
    (bs : List Binding) : ValuesAlike (evaluate env bs) (evaluate env' bs) := by
  induction bs using List.reverseRecOn with
  | nil => exact .nil
  | append_singleton bs b ih =>
    obtain ⟨key, written⟩ := b
    rw [evaluate_concat, evaluate_concat]
    refine ih.set _ ?_
    cases written with
    | none => exact .none
    | some written =>
      refine .some ?_
      rw [String.toList_ofList, String.toList_ofList]
      exact zeroAlike_interpolate (zeroAlike_resolve henv ih) _ _

/-- Filling gaps alike fails alike, and leaves the same variables. -/
theorem fill_alike (hnames : SameNames env env') (hvalues : ValuesAlike values values') :
    (fill env values).2 = (fill env' values').2 ∧
      SameNames (fill env values).1 (fill env' values').1 := by
  induction hvalues generalizing env env' with
  | nil => exact ⟨rfl, hnames⟩
  | @cons v v' rest rest' hv hrest ih =>
    obtain ⟨name, value⟩ := v
    obtain ⟨name', value'⟩ := v'
    obtain ⟨hname, hvalue⟩ := hv
    obtain rfl : name = name' := hname
    cases hvalue with
    | none => exact ih hnames
    | @some value value' hzero =>
      rw [fill, fill]
      rcases hnames.get?_cases name with ⟨hnone, hnone'⟩ | ⟨old, old', hold, hold'⟩
      · rw [hnone, hnone', if_neg (by simp), if_neg (by simp)]
        rcases set_alike hnone hnone' hzero with ⟨f, hset, hset'⟩ | ⟨hset, hset'⟩
        · rw [hset, hset']
          exact ⟨rfl, hnames⟩
        · rw [hset, hset']
          exact ih (hnames.concat name value value')
      · rw [hold, hold']
        exact ih hnames

theorem load_alike (hnames : SameNames env env')
    (henv : ∀ name, ValueAlike (env.get? name) (env'.get? name)) (content : List UInt8) :
    (load env content).2 = (load env' content).2 ∧
      SameNames (load env content).1 (load env' content).1 := by
  unfold load
  split
  · exact fill_alike hnames (valuesAlike_evaluate henv _)
  · exact ⟨rfl, hnames⟩

end DotEnv

/-! ## Surroundings that look the same -/

/-- Surroundings with the same records, and with the same variables. -/
structure Surroundings.Alike (w t : Surroundings) : Prop where
  log : w.log = t.log
  names : w.env.SameNames t.env

namespace Resolver

open Environment

variable {r : Resolver} {w t : Surroundings}

/-- Two outcomes are the same value or the same failure, in surroundings that look the same. -/
def Agree {α : Type} : EStateM.Result Error Surroundings α →
    EStateM.Result Error Surroundings α → Prop
  | .ok a w, .ok b t => a = b ∧ w.Alike t
  | .error e w, .error f t => e = f ∧ w.Alike t
  | _, _ => False

/-! ## Making a resolver -/

theorem readFile_agree (halike : w.Alike t)
    (hvalues : ∀ name, DotEnv.ValueAlike (w.env.get? name) (t.env.get? name))
    (hswitch : w.env.get? DotEnv.switchName = t.env.get? DotEnv.switchName) :
    Agree (r.readFile.run w) (r.readFile.run t) := by
  have hdisabled : DotEnv.isDisabled w.env = DotEnv.isDisabled t.env := by
    rw [DotEnv.isDisabled, DotEnv.isDisabled, hswitch]
  rw [readFile_run, readFile_run, hdisabled]
  cases r.file with
  | absent => exact ⟨rfl, halike⟩
  | failing e => exact ⟨rfl, halike⟩
  | present content =>
    dsimp only
    split
    · exact ⟨rfl, halike⟩
    · obtain ⟨hfailure, hnames⟩ := DotEnv.load_alike halike.names hvalues content
      generalize DotEnv.load w.env content = loaded, DotEnv.load t.env content = loaded'
        at hfailure hnames ⊢
      obtain ⟨env, failure⟩ := loaded
      obtain ⟨env', failure'⟩ := loaded'
      obtain rfl : failure = failure' := hfailure
      cases failure with
      | none => exact ⟨rfl, halike.log, hnames⟩
      | some f => exact ⟨rfl, halike.log, hnames⟩

theorem load_agree (halike : w.Alike t)
    (hvalues : ∀ name, DotEnv.ValueAlike (w.env.get? name) (t.env.get? name))
    (hswitch : w.env.get? DotEnv.switchName = t.env.get? DotEnv.switchName) :
    Agree (r.load.run w) (r.load.run t) := by
  have hread : Agree (r.readFile.run w) (r.readFile.run t) :=
    readFile_agree halike hvalues hswitch
  rw [load_run, load_run]
  split
  · exact ⟨rfl, halike⟩
  · cases hw : r.readFile.run w with
    | ok _ w' =>
      cases ht : r.readFile.run t with
      | ok _ t' =>
        rw [hw, ht] at hread
        exact ⟨rfl, congrArg (· ++ _) hread.2.log, hread.2.names⟩
      | error f t' =>
        rw [hw, ht] at hread
        exact hread.elim
    | error e w' =>
      cases ht : r.readFile.run t with
      | ok _ t' =>
        rw [hw, ht] at hread
        exact hread.elim
      | error f t' =>
        rw [hw, ht] at hread
        obtain ⟨rfl, halike⟩ := hread
        dsimp only
        split
        · cases e.wording with
          | ok text => exact ⟨rfl, congrArg (· ++ _) halike.log, halike.names⟩
          | error e => exact ⟨rfl, halike⟩
        · exact ⟨rfl, halike⟩

/-- The variables of credentials. -/
def secretNames : List String := [tokenName, keyIdName, keySecretName]

/-- Making a resolver comes to the same in environments that differ in secrets only. -/
theorem make_agree {env env' : Environment} (hdiffer : DifferIn secretNames env env')
    (hzero : ZeroFree secretNames env) (hzero' : ZeroFree secretNames env') (levels : Levels)
    (file found : DotEnvFile) (loads : Bool) (log : List LogRecord) :
    Agree ((make levels file loads).run { env, log, found })
      ((make levels file loads).run { env := env', log, found }) := by
  have halike : Surroundings.Alike { env, log, found } { env := env', log, found } :=
    ⟨rfl, hdiffer.sameNames⟩
  cases loads with
  | false => exact ⟨rfl, halike⟩
  | true =>
    exact load_agree (r := { file, loaded := false, levels }) halike
      (DotEnv.valueAlike_get? hdiffer hzero hzero') (hdiffer.sameValues _ (by decide))

/-! ## Operations -/

/-- Reading a variable leaves the same variables and the same records, whatever its values are. -/
theorem alike_read (halike : w.Alike t) (r : Resolver) (name : String) (removes : Bool) :
    Surroundings.Alike
      { w with env := if removes then w.env.unset name else w.env, log := r.noted w.log name }
      { t with env := if removes then t.env.unset name else t.env, log := r.noted t.log name } := by
  refine ⟨congrArg (r.noted · name) halike.log, ?_⟩
  cases removes with
  | false => exact halike.names
  | true => simpa [unset_eq_without] using halike.names.without [name]

theorem resolve_alike (halike : w.Alike t) (name : Option String) (required removes : Bool) :
    (left ((r.resolve name required removes).run w)).Alike
      (left ((r.resolve name required removes).run t)) := by
  rw [resolve_run, resolve_run, found?, found?]
  cases name.filter (· ≠ "") with
  | none => cases required <;> exact halike
  | some n =>
    simp only [Option.bind_some]
    rcases halike.names.get?_cases n with ⟨hw, ht⟩ | ⟨value, value', hw, ht⟩
    · rw [hw, ht]
      cases required <;> exact halike
    · rw [hw, ht]
      exact alike_read halike r n removes

theorem resolveToken_alike (halike : w.Alike t) (removes : Bool) :
    (left ((r.resolveToken removes).run w)).Alike (left ((r.resolveToken removes).run t)) := by
  rw [resolveToken_run, resolveToken_run]
  rcases halike.names.get?_cases tokenName with ⟨hw, ht⟩ | ⟨token, token', hw, ht⟩
  · rw [hw, ht]
    exact halike
  · rw [hw, ht]
    simp only [left_accept]
    exact alike_read halike r tokenName removes

theorem resolveKey_alike (halike : w.Alike t) (removes : Bool) :
    (left ((r.resolveKey removes).run w)).Alike (left ((r.resolveKey removes).run t)) := by
  rw [resolveKey_run, resolveKey_run]
  rcases halike.names.get?_cases keyIdName with ⟨hw, ht⟩ | ⟨keyId, keyId', hw, ht⟩
  · rw [hw, ht]
    exact halike
  · rw [hw, ht]
    have hfirst := alike_read halike r keyIdName false
    rcases halike.names.get?_cases keySecretName with ⟨hw, ht⟩ | ⟨secret, secret', hw, ht⟩
    · rw [hw, ht]
      exact hfirst
    · rw [hw, ht]
      simp only [left_accept]
      refine ⟨(alike_read hfirst r keySecretName false).log, ?_⟩
      cases removes with
      | false => exact halike.names
      | true => simpa [unset_unset_eq_without] using halike.names.without [keyIdName, keySecretName]

/-- Whether an operation reads values, and does not ask for the file. -/
def Operation.reads : Operation → Bool
  | .load _ => false
  | _ => true

/-- An operation that reads leaves the resolver as it is, and surroundings that look the same. -/
theorem step_alike_of_reads {op : Operation} (hreads : op.reads = true) (halike : w.Alike t) :
    (step (r, w) op).1 = r ∧ (step (r, t) op).1 = r ∧
      (step (r, w) op).2.Alike (step (r, t) op).2 := by
  cases op with
  | load file => cases hreads
  | value name required removes =>
    rw [step_of_read rfl, step_of_read rfl]
    exact ⟨rfl, rfl, resolve_alike halike name required removes⟩
  | token removes =>
    rw [step_of_read rfl, step_of_read rfl]
    exact ⟨rfl, rfl, resolveToken_alike halike removes⟩
  | key removes =>
    rw [step_of_read rfl, step_of_read rfl]
    exact ⟨rfl, rfl, resolveKey_alike halike removes⟩

theorem serve_alike_of_reads {ops : List Operation} (hreads : ∀ op ∈ ops, op.reads = true)
    (halike : w.Alike t) : (serve (r, w) ops).2.Alike (serve (r, t) ops).2 := by
  induction ops generalizing w t with
  | nil => exact halike
  | cons op ops ih =>
    obtain ⟨hop, hops⟩ := List.forall_mem_cons.mp hreads
    obtain ⟨hw, ht, hstep⟩ := step_alike_of_reads (r := r) hop halike
    have hstates : step (r, w) op = (r, (step (r, w) op).2) ∧
        step (r, t) op = (r, (step (r, t) op).2) := ⟨Prod.ext hw rfl, Prod.ext ht rfl⟩
    show (serve (step (r, w) op) ops).2.Alike (serve (step (r, t) op) ops).2
    rw [hstates.1, hstates.2]
    exact ih hops hstep

/-- The records of values that are read are the same in environments that differ in secrets only,
whatever is read, and whether a read succeeds or fails. So are those of making the resolver before,
which succeeds or fails alike, if no secret has a zero character. -/
theorem log_independent {env env' : Environment} (hdiffer : DifferIn secretNames env env')
    (log : List LogRecord) (found : DotEnvFile) {ops : List Operation}
    (hreads : ∀ op ∈ ops, op.reads = true) :
    (∀ r : Resolver, (serve (r, { env, log, found }) ops).2.log =
      (serve (r, { env := env', log, found }) ops).2.log) ∧
    (ZeroFree secretNames env → ZeroFree secretNames env' → ∀ levels file loads,
      let made := make levels file loads
      Agree (made.run { env, log, found }) (made.run { env := env', log, found }) ∧
      ∀ r r' w t, made.run { env, log, found } = .ok r w →
        made.run { env := env', log, found } = .ok r' t →
          (serve (r, w) ops).2.log = (serve (r', t) ops).2.log) := by
  have halike : Surroundings.Alike { env, log, found } { env := env', log, found } :=
    ⟨rfl, hdiffer.sameNames⟩
  refine ⟨fun r => (serve_alike_of_reads hreads halike).log, ?_⟩
  intro hzero hzero' levels file loads made
  have hmade := make_agree hdiffer hzero hzero' levels file found loads log
  refine ⟨hmade, fun r r' w t hw ht => ?_⟩
  rw [hw, ht] at hmade
  obtain ⟨rfl, hmade⟩ := hmade
  exact (serve_alike_of_reads hreads hmade).log

/-- A variable that the file makes of the token, and a token that can be used in one of the
environments and is empty in the other one. -/
theorem log_independent_of_token :
    let env : String → Environment := fun token => [(tokenName, token), ("OTHER", "value")]
    let levels : Levels := [(loggerName, debugLevel)]
    let content := Text.Utf8.encode "COPY=$\x7bANEXIA_TOKEN\x7d\n".toList
    let r : Resolver := { file := .present content, loaded := true, levels }
    let w : String → Surroundings := fun token => {
      env := env token ++ [("COPY", token)]
      log := levels.record loggerName debugLevel "Loaded .env file for credential lookup" }
    let ops : List Operation := [.value (some "COPY") true true, .token false, .key false,
      .token true, .token true]
    (∀ token ∈ ["s3cret", ""],
      (make levels (.present content) true).run { env := env token, log := [] } =
        .ok r (w token)) ∧
    (serve (r, w "s3cret") ops).2.log = (serve (r, w "") ops).2.log ∧
    (serve (r, w "") ops).2.log.map (fun record => record.message) =
      ["Loaded .env file for credential lookup",
        "Using credential from environment variable COPY",
        "Using credential from environment variable ANEXIA_TOKEN",
        "Using credential from environment variable ANEXIA_TOKEN"] := by
  intro env levels content r w ops
  have hdiffer : DifferIn secretNames (env "s3cret") (env "") := by
    constructor
    · intro name
      by_cases hname : name = tokenName <;> simp [env, get?_cons, hname]
    · intro name hname
      have hother : name ≠ tokenName := fun h => hname (h ▸ by decide)
      simp [env, get?_cons, hother]
  have hzero : ∀ token ∈ ["s3cret", ""], ZeroFree secretNames (env token) := by
    unfold ZeroFree secretNames env
    decide
  have hmade : ∀ token ∈ ["s3cret", ""],
      (make levels (.present content) true).run { env := env token, log := [] } =
        .ok r (w token) := by
    intro token htoken
    have hload : ∀ token ∈ ["s3cret", ""], DotEnv.isDisabled (env token) = false ∧
        DotEnv.load (env token) content = (env token ++ [("COPY", token)], none) := by
      decide +kernel
    obtain ⟨hon, hload⟩ := hload token htoken
    show (load { r with loaded := false }).run _ = _
    rw [load_run, readFile_run]
    simp only [r, hon, hload]
    rfl
  have hreads : ∀ op ∈ ops, op.reads = true := by decide
  obtain ⟨-, hmake⟩ := log_independent hdiffer [] .absent hreads
  obtain ⟨-, hsame⟩ := hmake (hzero "s3cret" (by simp)) (hzero "" (by simp)) levels
    (.present content) true
  refine ⟨hmade, hsame r r _ _ (hmade "s3cret" (by simp)) (hmade "" (by simp)), ?_⟩
  decide +kernel

end Resolver

end ApiClient
