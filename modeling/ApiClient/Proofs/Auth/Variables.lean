import ApiClient.Auth.DotEnv
import Mathlib.Data.List.Induction
import Mathlib.Data.List.Nodup

/-!
# Variables

The environment seen through the values of its variables, and what loading a file makes of it:
variables that are set keep their values, and each one that gets set is bound in the file, to the
value that it gets.
-/

namespace ApiClient

namespace Environment

theorem get?_cons (v : String × String) (env : Environment) (n : String) :
    get? (v :: env) n = if n = v.1 then some v.2 else env.get? n := by
  rw [get?, List.lookup_cons]
  by_cases h : n = v.1
  · simp [h]
  · simp [get?, h, beq_eq_false_iff_ne.mpr h]

/-- Of variables that stay by their names, those that stay have their values. -/
theorem get?_filter (keeps : String → Bool) (env : Environment) (n : String) :
    get? (env.filter fun v => keeps v.1) n = if keeps n then env.get? n else none := by
  induction env with
  | nil => simp [get?]
  | cons v env ih =>
    by_cases h : n = v.1
    · subst h
      cases hv : keeps v.1 <;> simp [hv, get?_cons, ih]
    · cases hv : keeps v.1 <;> simp [hv, get?_cons, ih, h]

theorem get?_concat (env : Environment) (name value n : String) :
    get? (env ++ [(name, value)]) n =
      (env.get? n).or (if n = name then some value else none) := by
  induction env with
  | nil => exact get?_cons _ [] n
  | cons v env ih =>
    rw [List.cons_append, get?_cons, get?_cons, ih]
    split <;> rfl

theorem any_eq_false_of_get? {env : Environment} {name : String} (h : env.get? name = none) :
    (env.any fun v => v.1 = name) = false := by
  induction env with
  | nil => rfl
  | cons v env ih =>
    rw [get?_cons] at h
    split at h
    · cases h
    · rename_i hne
      simp [ih h, Ne.symm hne]

/-- A variable that is not set is set behind the others. -/
theorem eq_concat_of_set {env env' : Environment} {name value : String}
    (hnone : env.get? name = none) (h : env.set name value = .ok env') :
    env' = env ++ [(name, value)] := by
  unfold set at h
  split at h
  · cases h
  · split at h
    · cases h
    · split at h
      · cases h
      · cases h
        rw [put, any_eq_false_of_get? hnone]
        rfl

end Environment

namespace DotEnv

/-- A file gives a variable a value: it binds the name, and the value is what that comes to in the
environment, once the whole file is read. -/
def Gives (env : Environment) (content : List UInt8) (name value : String) : Prop :=
  ∃ chars, text content = .ok chars ∧
    (∃ written, (name.toList, some written) ∈ bindings chars) ∧
    (name, some value) ∈ evaluate env (bindings chars)

/-- What becomes of an environment that gets only variables that `gives` tells of. -/
structure Extends (gives : String → String → Prop) (env env' : Environment) : Prop where
  /-- Variables that are set keep their values. -/
  keeps : ∀ name value, env.get? name = some value → env'.get? name = some value
  /-- The others are set as they are given. -/
  adds : ∀ name value, env'.get? name = some value →
    env.get? name = some value ∨ env.get? name = none ∧ gives name value

namespace Extends

variable {gives gives' : String → String → Prop} {env env' : Environment}

theorem refl (env : Environment) : Extends gives env env where
  keeps _ _ h := h
  adds _ _ h := .inl h

theorem trans {env'' : Environment} (h : Extends gives env env') (h' : Extends gives env' env'') :
    Extends gives env env'' where
  keeps name value hname := h'.keeps name value (h.keeps name value hname)
  adds name value hname := by
    rcases h'.adds name value hname with hname | ⟨hnone, hgiven⟩
    · exact h.adds name value hname
    · right
      refine ⟨?_, hgiven⟩
      cases hold : env.get? name with
      | none => rfl
      | some old =>
        rw [h.keeps name old hold] at hnone
        cases hnone

theorem concat {name value : String} (hgiven : gives name value) :
    Extends gives env (env ++ [(name, value)]) where
  keeps n v h := by rw [Environment.get?_concat, h, Option.some_or]
  adds n v h := by
    rw [Environment.get?_concat, Option.or_eq_some_iff] at h
    rcases h with h | ⟨hn, h⟩
    · exact .inl h
    · split at h
      · rename_i hname
        cases h
        exact .inr ⟨hn, hname ▸ hgiven⟩
      · cases h

theorem mono (h : Extends gives env env')
    (hgives : ∀ name value, gives name value → gives' name value) : Extends gives' env env' where
  keeps := h.keeps
  adds name value hname := (h.adds name value hname).imp id fun ⟨hnone, hgiven⟩ =>
    ⟨hnone, hgives name value hgiven⟩

end Extends

theorem mem_set {name : String} {value : Option String} {values : Values}
    {v : String × Option String} (h : v ∈ values.set name value) :
    v = (name, value) ∨ v ∈ values := by
  induction values with
  | nil => exact .inl (List.mem_singleton.mp h)
  | cons u rest ih =>
    rw [Values.set] at h
    split at h
    · rename_i heq
      rcases List.mem_cons.mp h with rfl | h
      · exact .inl (by rw [heq])
      · exact .inr (List.mem_cons_of_mem _ h)
    · rcases List.mem_cons.mp h with rfl | h
      · exact .inr List.mem_cons_self
      · exact (ih h).imp id (List.mem_cons_of_mem _)

theorem evaluate_concat (env : Environment) (bs : List Binding) (key : List Char)
    (written : Option (List Char)) :
    evaluate env (bs ++ [(key, written)]) =
      (evaluate env bs).set (String.ofList key)
        (written.map fun value =>
          String.ofList (interpolate (resolve env (evaluate env bs)) value.length value)) := by
  rw [evaluate, List.foldl_append]
  rfl

/-- A name has a value by a file only if the file binds it to a text. -/
theorem bound_of_mem_evaluate {env : Environment} {bs : List Binding} {name value : String}
    (h : (name, some value) ∈ evaluate env bs) :
    ∃ written, (name.toList, some written) ∈ bs := by
  induction bs using List.reverseRecOn with
  | nil => cases h
  | append_singleton bs b ih =>
    obtain ⟨key, written⟩ := b
    rw [evaluate_concat] at h
    rcases mem_set h with heq | h
    · obtain ⟨hname, hvalue⟩ := Prod.mk.inj heq
      cases written with
      | none => cases hvalue
      | some written => exact ⟨written, by simp [hname]⟩
    · obtain ⟨written, hmem⟩ := ih h
      exact ⟨written, List.mem_append_left _ hmem⟩

/-- Loading the values of a file extends the environment by some of them. -/
theorem extends_fill (env : Environment) (values : Values) :
    Extends (fun name value => (name, some value) ∈ values) env (fill env values).1 := by
  induction values generalizing env with
  | nil => exact .refl env
  | cons v rest ih =>
    obtain ⟨name, value⟩ := v
    have hmore : ∀ n v, (n, some v) ∈ rest → (n, some v) ∈ (name, value) :: rest :=
      fun n v => List.mem_cons_of_mem _
    cases value with
    | none => exact (ih env).mono hmore
    | some value =>
      rw [fill]
      split
      · exact (ih env).mono hmore
      · rename_i hunset
        have hnone : env.get? name = none := by simpa using hunset
        split
        · rename_i env' hset
          obtain rfl := Environment.eq_concat_of_set hnone hset
          exact (Extends.concat List.mem_cons_self).trans ((ih _).mono hmore)
        · exact .refl env

theorem names_set (name : String) (value : Option String) (values : Values) :
    (values.set name value).map Prod.fst =
      if name ∈ values.map Prod.fst then values.map Prod.fst
      else values.map Prod.fst ++ [name] := by
  induction values with
  | nil => rfl
  | cons v rest ih =>
    obtain ⟨n, old⟩ := v
    rw [Values.set]
    split
    · rename_i heq
      simp [heq]
    · rename_i hne
      rw [List.map_cons, ih]
      by_cases hmem : name ∈ rest.map Prod.fst
      · simp [hmem]
      · simp [hmem, Ne.symm hne]

/-- A file gives a name one value, if any. -/
theorem nodup_names_evaluate (env : Environment) (bs : List Binding) :
    ((evaluate env bs).map Prod.fst).Nodup := by
  induction bs using List.reverseRecOn with
  | nil => exact List.nodup_nil
  | append_singleton bs b ih =>
    rw [evaluate_concat, names_set]
    split
    · exact ih
    · rename_i hnew
      rw [← List.concat_eq_append]
      exact List.Nodup.concat hnew ih

/-- Unless a variable is refused, each one that has a value and is not set gets set. -/
theorem get?_fill {env : Environment} {values : Values} {name value : String}
    (hnodup : (values.map Prod.fst).Nodup) (hok : (fill env values).2 = none)
    (hnone : env.get? name = none) (h : (name, some value) ∈ values) :
    (fill env values).1.get? name = some value := by
  induction values generalizing env with
  | nil => cases h
  | cons v rest ih =>
    obtain ⟨n, new⟩ := v
    obtain ⟨hfirst, hrest⟩ := List.nodup_cons.mp hnodup
    -- names are distinct, so that setting the first one leaves those behind it unset
    have hlater : (name, some value) ∈ rest → n ≠ name := by
      rintro hmem rfl
      exact hfirst (List.mem_map.mpr ⟨_, hmem, rfl⟩)
    cases new with
    | none =>
      exact ih hrest hok hnone ((List.mem_cons.mp h).resolve_left (by simp))
    | some new =>
      rw [fill] at hok ⊢
      split at hok
      · rename_i hset
        rw [if_pos hset]
        refine ih hrest hok hnone ((List.mem_cons.mp h).resolve_left fun heq => ?_)
        cases heq
        rw [hnone] at hset
        cases hset
      · rename_i hunset
        rw [if_neg hunset]
        have hn : env.get? n = none := by simpa using hunset
        split at hok
        · rename_i env' hset
          obtain rfl := Environment.eq_concat_of_set hn hset
          rcases List.mem_cons.mp h with heq | hmem
          · cases heq
            apply (extends_fill _ rest).keeps
            rw [Environment.get?_concat, hn, if_pos rfl, Option.none_or]
          · refine ih hrest hok ?_ hmem
            rw [Environment.get?_concat, hnone, if_neg (hlater hmem).symm, Option.none_or]
        · cases hok

/-- Loading a file extends the environment by variables that it gives, also if loading fails. -/
theorem extends_load (env : Environment) (content : List UInt8) :
    Extends (Gives env content) env (load env content).1 := by
  unfold load
  split
  · rename_i chars hchars
    exact (extends_fill env _).mono fun name value h =>
      ⟨chars, hchars, bound_of_mem_evaluate h, h⟩
  · exact .refl env

/-- A file that is loaded without failure gives each variable that is not set its value. -/
theorem get?_load {env : Environment} {content : List UInt8} {name value : String}
    (hok : (load env content).2 = none) (hnone : env.get? name = none)
    (h : Gives env content name value) : (load env content).1.get? name = some value := by
  obtain ⟨chars, hchars, -, hmem⟩ := h
  rw [load, hchars] at hok ⊢
  exact get?_fill (nodup_names_evaluate env _) hok hnone hmem

end DotEnv

end ApiClient
