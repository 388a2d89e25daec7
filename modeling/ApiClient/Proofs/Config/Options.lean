import Mathlib.Data.List.Basic
import Mathlib.Data.List.Induction
import ApiClient.Config

/-!
# Options

An option that reads nothing from the environment either sets its field and nothing else, or it is
refused: because its credential is empty, or because an option before it has given a credential of
the other kind. Options of different fields can change places.
-/

namespace ApiClient

/-- What options set. -/
inductive OptionField
  | baseUrl
  | credential
  | transport
  | userAgent
  | logger
  | reportsFailures
  | receiver
  | credentialOptional
  | version
  | resolver
  deriving DecidableEq, Repr

namespace ClientOption

/-- What an option sets. -/
def field : ClientOption → OptionField
  | token _ | tokenFromEnvironment _ | key .. | keyFromEnvironment _ => .credential
  | baseUrl _ => .baseUrl
  | userAgent _ => .userAgent
  | logger _ => .logger
  | transport _ => .transport
  | reportsFailures _ => .reportsFailures
  | receiver _ => .receiver
  | credentialOptional => .credentialOptional
  | version _ => .version
  | resolver .. => .resolver

/-- Whether an option has nothing to do with the environment. -/
def selfContained : ClientOption → Bool
  | tokenFromEnvironment _ | keyFromEnvironment _ | resolver .. => false
  | _ => true

/-- The credential that an option gives, whether it can be used or not. -/
def credential? : ClientOption → Option Credential
  | .token text => some (.bearer text)
  | .key keyId secret => some (.signature keyId secret)
  | _ => none

/-- An option is the last one of its field. -/
def IsLast (options : List ClientOption) (o : ClientOption) : Prop :=
  ∃ before after, options = before ++ o :: after ∧ ∀ later ∈ after, later.field ≠ o.field

theorem isLast_concat {options : List ClientOption} {o p : ClientOption}
    (h : IsLast (options ++ [o]) p) : p = o ∨ IsLast options p ∧ o.field ≠ p.field := by
  obtain ⟨before, after, hsplit, hafter⟩ := h
  rcases List.eq_nil_or_concat after with rfl | ⟨after, last, rfl⟩
  · obtain ⟨-, hlast⟩ := List.append_inj' hsplit rfl
    exact Or.inl (List.singleton_inj.mp hlast).symm
  · rw [List.concat_eq_append, ← List.cons_append, ← List.append_assoc] at hsplit
    obtain ⟨hoptions, hlast⟩ := List.append_inj' hsplit rfl
    obtain rfl := List.singleton_inj.mp hlast
    rw [List.concat_eq_append, List.forall_mem_append] at hafter
    exact Or.inr ⟨⟨before, after, hoptions, hafter.1⟩, hafter.2 o (List.mem_singleton_self o)⟩

/-- The credentials that options give, in order. -/
def credentials (options : List ClientOption) : List Credential :=
  options.filterMap credential?

theorem credentials_concat (options : List ClientOption) (o : ClientOption) :
    credentials (options ++ [o]) = credentials options ++ o.credential?.toList := by
  rw [credentials, List.filterMap_append]
  cases h : o.credential? with
  | none => rw [List.filterMap_cons_none h]; rfl
  | some c => rw [List.filterMap_cons_some h]; rfl

theorem field_of_credential {o : ClientOption} {c : Credential} (h : o.credential? = some c) :
    o.field = .credential := by
  cases o with
  | token token => rfl
  | key keyId secret => rfl
  | _ => cases h

end ClientOption

namespace Credential

/-- No part of a credential is empty. -/
def Filled : Credential → Prop
  | bearer token => token ≠ ""
  | signature keyId secret => keyId ≠ "" ∧ secret ≠ ""

/-- A credential, unless a part of it is empty. -/
def checked : Credential → Except CredentialError Credential
  | bearer token => ofToken token
  | signature keyId secret => ofKey keyId secret

theorem checked_of_filled {c : Credential} (h : c.Filled) : c.checked = .ok c := by
  cases c with
  | bearer token => exact if_neg h
  | signature keyId secret => exact if_neg (not_or.mpr h)

theorem sameKind_iff {c b : Credential} : c.sameKind b = true ↔ c.kindName = b.kindName := by
  cases c <;> cases b <;> simp [sameKind, kindName]

theorem sameKind_comm (c b : Credential) : c.sameKind b = b.sameKind c := by
  rw [Bool.eq_iff_iff, sameKind_iff, sameKind_iff]
  exact eq_comm

end Credential

/-- Credentials that may be given together: none is empty, and all are of one kind. -/
structure Compatible (credentials : List Credential) : Prop where
  /-- No credential is empty. -/
  filled : ∀ c ∈ credentials, c.Filled
  /-- There is one kind. -/
  oneKind : ∀ c ∈ credentials, ∀ b ∈ credentials, c.sameKind b = true

theorem Compatible.nil : Compatible [] :=
  ⟨fun _ h => absurd h List.not_mem_nil, fun _ h => absurd h List.not_mem_nil⟩

/-- A credential may be given behind others if it is of the kind of one of them. -/
theorem Compatible.concat {credentials : List Credential} {c : Credential}
    (h : Compatible credentials) (hfilled : c.Filled)
    (hkind : ∀ b, credentials.getLast? = some b → c.sameKind b = true) :
    Compatible (credentials ++ [c]) := by
  have hall : ∀ b ∈ credentials, c.sameKind b = true := by
    intro b hb
    rcases List.eq_nil_or_concat credentials with rfl | ⟨init, last, rfl⟩
    · cases hb
    · rw [List.concat_eq_append] at h hb hkind
      have hlast := hkind last List.getLast?_concat
      have hsame := h.oneKind last (List.mem_append_right _ (List.mem_singleton_self _)) b hb
      rw [Credential.sameKind_iff] at hlast hsame ⊢
      exact hlast.trans hsame
  refine ⟨fun b hb => ?_, fun b hb a ha => ?_⟩
  · rcases List.mem_append.mp hb with hb | hb
    · exact h.filled b hb
    · obtain rfl := List.mem_singleton.mp hb
      exact hfilled
  · rcases List.mem_append.mp hb with hb | hb
    · rcases List.mem_append.mp ha with ha | ha
      · exact h.oneKind b hb a ha
      · rw [List.mem_singleton.mp ha, Credential.sameKind_comm]
        exact hall b hb
    · rw [List.mem_singleton.mp hb]
      rcases List.mem_append.mp ha with ha | ha
      · exact hall a ha
      · rw [List.mem_singleton.mp ha]
        exact Credential.sameKind_iff.mpr rfl

/-! ## Offending options -/

open ClientOption (credentials)

/-- An option behind others is refused. -/
inductive Offends (before : List ClientOption) : ClientOption → Error → Prop
  /-- The token is empty. -/
  | emptyToken : Offends before (.token "") (.credential .emptyToken)
  /-- The name or the secret of the key is empty. -/
  | emptyKey {keyId secret : String} (h : keyId = "" ∨ secret = "") :
      Offends before (.key keyId secret) (.credential .emptyKey)
  /-- The credential can be used, but an option before gives one of the other kind. -/
  | mixed {o : ClientOption} {c b : Credential} (hc : o.credential? = some c) (hfilled : c.Filled)
      (hb : b ∈ credentials before) (hkind : c.sameKind b = false) :
      Offends before o (.configuration (.mixedCredentials c.kindName b.kindName))

/-- No option is refused behind those before it. -/
def Unoffending (options : List ClientOption) : Prop :=
  ∀ before o after e, options = before ++ o :: after → ¬ Offends before o e

/-- The first option that is refused is refused with this error. -/
def FirstOffence (options : List ClientOption) (e : Error) : Prop :=
  ∃ before o after, options = before ++ o :: after ∧ Unoffending before ∧ Offends before o e

theorem FirstOffence.concat {options : List ClientOption} {e : Error} (h : FirstOffence options e)
    (o : ClientOption) : FirstOffence (options ++ [o]) e := by
  obtain ⟨before, p, after, rfl, hbefore, hp⟩ := h
  exact ⟨before, p, after ++ [o], by rw [List.append_assoc, List.cons_append], hbefore, hp⟩

/-- Options are refused exactly for credentials that may not be given together. -/
theorem unoffending_iff {options : List ClientOption} :
    Unoffending options ↔ Compatible (credentials options) := by
  have hmem : ∀ {before after : List ClientOption} {o : ClientOption} {c : Credential},
      o.credential? = some c → c ∈ credentials (before ++ o :: after) := by
    intro before after o c hc
    exact List.mem_filterMap.mpr ⟨o, List.mem_append_right _ List.mem_cons_self, hc⟩
  constructor
  · intro h
    have hfilled : ∀ c ∈ credentials options, c.Filled := by
      intro c hc
      obtain ⟨o, ho, hoc⟩ := List.mem_filterMap.mp hc
      obtain ⟨before, after, rfl⟩ := List.append_of_mem ho
      by_contra hempty
      cases o with
      | token token =>
        cases hoc
        obtain rfl := not_not.mp hempty
        exact h before _ after _ rfl .emptyToken
      | key keyId secret =>
        cases hoc
        have hpart : keyId = "" ∨ secret = "" := by
          by_contra hnone
          exact hempty (not_or.mp hnone)
        exact h before _ after _ rfl (.emptyKey hpart)
      | _ => cases hoc
    refine ⟨hfilled, fun c hc b hb => ?_⟩
    -- of two credentials of different kinds, the option that gives the later one is refused
    obtain ⟨o, ho, hoc⟩ := List.mem_filterMap.mp hc
    obtain ⟨p, hp, hpb⟩ := List.mem_filterMap.mp hb
    obtain ⟨before, after, rfl⟩ := List.append_of_mem ho
    by_contra hkind
    rw [Bool.not_eq_true] at hkind
    rcases List.mem_append.mp hp with hp | hp
    · have hbefore : b ∈ credentials before := List.mem_filterMap.mpr ⟨p, hp, hpb⟩
      exact h before o after _ rfl (.mixed hoc (hfilled c hc) hbefore hkind)
    · rcases List.mem_cons.mp hp with rfl | hp
      · rw [hoc] at hpb
        cases hpb
        rw [Credential.sameKind_iff.mpr rfl] at hkind
        cases hkind
      · obtain ⟨between, after, rfl⟩ := List.append_of_mem hp
        have hsplit : before ++ o :: (between ++ p :: after) =
            (before ++ o :: between) ++ p :: after := by
          rw [List.append_assoc, List.cons_append]
        rw [Credential.sameKind_comm] at hkind
        exact h _ p after _ hsplit (.mixed hpb (hfilled b hb) (hmem hoc) hkind)
  · rintro h before o after e rfl hoffends
    cases hoffends with
    | emptyToken =>
      have hfilled : (Credential.bearer "").Filled := h.filled _ (hmem (o := .token "") rfl)
      exact hfilled rfl
    | emptyKey hpart =>
      rename_i keyId secret
      have hfilled : (Credential.signature keyId secret).Filled :=
        h.filled _ (hmem (o := .key keyId secret) rfl)
      exact hpart.elim hfilled.1 hfilled.2
    | mixed hc hfilled hb hkind =>
      rename_i c b
      have hbefore : b ∈ credentials (before ++ o :: after) := by
        rw [credentials, List.filterMap_append]
        exact List.mem_append_left _ hb
      rw [h.oneKind c (hmem hc) b hbefore] at hkind
      cases hkind

/-! ## Applying options -/

namespace Config.Draft

variable {d : Draft} {o p : ClientOption} {levels : Levels}

/-- A draft with what an option sets. -/
def put (d : Draft) : ClientOption → Draft
  | .token token => { d with credential := some (.bearer token) }
  | .key keyId secret => { d with credential := some (.signature keyId secret) }
  | .baseUrl url => { d with baseUrl := url }
  | .userAgent name => { d with userAgent := name }
  | .logger name => { d with logger := Levels.knownName name }
  | .transport name => { d with transport := .supplied name }
  | .reportsFailures reports => { d with reportsFailures := reports }
  | .receiver name => { d with receiver := some name }
  | .credentialOptional => { d with credentialOptional := true }
  | .version version => { d with version }
  | .tokenFromEnvironment _ | .keyFromEnvironment _ | .resolver .. => d

theorem apply_of_no_credential (hself : o.selfContained = true) (hc : o.credential? = none) :
    d.apply levels o = pure (d.put o) := by
  cases o with
  | token token => cases hc
  | key keyId secret => cases hc
  | tokenFromEnvironment removes => cases hself
  | keyFromEnvironment removes => cases hself
  | resolver file loads again => cases hself
  | _ => rfl

theorem apply_of_credential (levels : Levels) (d : Draft) {c : Credential}
    (hc : o.credential? = some c) :
    d.apply levels o = d.useCredential (Resolver.accept c.checked) ∧
      d.put o = { d with credential := some c } := by
  cases o with
  | token token => cases hc; exact ⟨rfl, rfl⟩
  | key keyId secret => cases hc; exact ⟨rfl, rfl⟩
  | _ => cases hc

theorem credential_put (d : Draft) (o : ClientOption) :
    (d.put o).credential = o.credential?.or d.credential := by
  cases o <;> rfl

theorem useCredential_run (d : Draft) (c : Credential) : d.useCredential (Resolver.accept (.ok c)) =
    match d.setCredential c with
    | .ok d => pure d
    | .error e => throw (.configuration e) :=
  pure_bind c _

/-- An option behind others that are not refused sets its field, or is refused. -/
theorem apply_cases (levels : Levels) {before : List ClientOption} (hself : o.selfContained = true)
    (hbefore : Compatible (credentials before))
    (hd : d.credential = (credentials before).getLast?) :
    Compatible (credentials (before ++ [o])) ∧ d.apply levels o = pure (d.put o) ∨
      ∃ e, Offends before o e ∧ d.apply levels o = throw e := by
  rw [ClientOption.credentials_concat]
  cases hc : o.credential? with
  | none =>
    left
    rw [Option.toList_none, List.append_nil]
    exact ⟨hbefore, apply_of_no_credential hself hc⟩
  | some c =>
    obtain ⟨happly, hput⟩ := apply_of_credential levels d hc
    rw [happly, hput]
    by_cases hfilled : c.Filled
    · rw [Credential.checked_of_filled hfilled, useCredential_run, setCredential]
      cases hlast : d.credential with
      | none =>
        left
        refine ⟨hbefore.concat hfilled fun b hb => ?_, rfl⟩
        rw [← hd, hlast] at hb
        cases hb
      | some b =>
        rw [hlast] at hd
        dsimp only
        rw [Credential.sameKind_comm b c]
        by_cases hkind : c.sameKind b = true
        · left
          rw [if_pos hkind]
          refine ⟨hbefore.concat hfilled fun a ha => ?_, rfl⟩
          rw [← hd] at ha
          cases ha
          exact hkind
        · right
          rw [if_neg hkind]
          have hb : b ∈ credentials before := List.mem_of_getLast? hd.symm
          exact ⟨_, .mixed hc hfilled hb (Bool.not_eq_true _ ▸ hkind), rfl⟩
    · right
      cases o with
      | token token =>
        cases hc
        obtain rfl := not_not.mp hfilled
        exact ⟨_, .emptyToken, rfl⟩
      | key keyId secret =>
        cases hc
        have hpart : keyId = "" ∨ secret = "" := by
          by_contra hnone
          exact hfilled (not_or.mp hnone)
        refine ⟨_, .emptyKey hpart, ?_⟩
        rw [Credential.checked, Credential.ofKey, if_pos hpart]
        rfl
      | _ => cases hc

/-! ## Options of different fields -/

/-- Fields are set in any order. -/
theorem put_comm (d : Draft) (hfield : o.field ≠ p.field) :
    (d.put o).put p = (d.put p).put o := by
  cases o <;> cases p <;> first | rfl | exact absurd rfl hfield

theorem setCredential_put (c : Credential) (hfield : o.field ≠ .credential) :
    (d.put o).setCredential c = (d.setCredential c).map fun d => d.put o := by
  have hcredential : (d.put o).credential = d.credential := by
    rw [credential_put]
    cases hc : o.credential? with
    | none => rfl
    | some c => exact absurd (ClientOption.field_of_credential hc) hfield
  have hput : ({ d.put o with credential := some c } : Draft) =
      ({ d with credential := some c } : Draft).put o := by
    cases o <;> first | rfl | exact absurd rfl hfield
  unfold setCredential
  rw [hcredential, hput]
  cases d.credential with
  | none => rfl
  | some b =>
    dsimp only
    split <;> rfl

/-- An option that gives no credential may as well be applied behind an option of another field. -/
theorem put_apply (hself : o.selfContained = true) (hpself : p.selfContained = true)
    (hc : o.credential? = none) (hfield : o.field ≠ p.field) :
    (d.put o).apply levels p = d.apply levels p >>= fun d => d.apply levels o := by
  have happly : (fun d : Draft => d.apply levels o) = fun d => pure (d.put o) :=
    funext fun d => apply_of_no_credential hself hc
  rw [happly]
  cases hp : p.credential? with
  | none =>
    rw [apply_of_no_credential hpself hp, apply_of_no_credential hpself hp, pure_bind,
      put_comm d hfield]
  | some c =>
    rw [(apply_of_credential levels _ hp).1, (apply_of_credential levels _ hp).1]
    cases c.checked with
    | error e => rfl
    | ok c =>
      rw [ClientOption.field_of_credential hp] at hfield
      rw [useCredential_run, useCredential_run, setCredential_put c hfield]
      cases d.setCredential c <;> rfl

/-- Options of different fields can be applied in either order. -/
theorem apply_comm (hself : o.selfContained = true) (hpself : p.selfContained = true)
    (hfield : o.field ≠ p.field) : (d.apply levels o >>= fun d => d.apply levels p) =
      d.apply levels p >>= fun d => d.apply levels o := by
  cases hc : o.credential? with
  | none =>
    rw [apply_of_no_credential hself hc, pure_bind]
    exact put_apply hself hpself hc hfield
  | some c =>
    cases hp : p.credential? with
    | none =>
      rw [apply_of_no_credential (d := d) hpself hp, pure_bind]
      exact (put_apply hpself hself hp hfield.symm).symm
    | some b =>
      rw [ClientOption.field_of_credential hc, ClientOption.field_of_credential hp] at hfield
      exact absurd rfl hfield

end Config.Draft

end ApiClient
