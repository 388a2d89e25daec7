import Mathlib.Data.List.TakeWhile
import ApiClient.Proofs.Config.Options

/-!
# Configurations made by options

Options that have nothing to do with the environment make a configuration unless one of them is
refused or there is no credential where there has to be one. Each field of the configuration is that
of the last option that sets it, so options of different fields can change places.
-/

namespace ApiClient.Config

open ClientOption (credentials IsLast)

/-- An address without the slashes at its end. -/
def WithoutSlashes (url base : String) : Prop :=
  (∃ n, url.toList = base.toList ++ List.replicate n '/') ∧ base.toList.getLast? ≠ some '/'

theorem withoutSlashes_dropSlashes (url : String) : WithoutSlashes url (dropSlashes url) := by
  obtain ⟨s, hs⟩ : ∃ s, s = url.toList.reverse := ⟨_, rfl⟩
  have hbase : (dropSlashes url).toList = (s.dropWhile (· = '/')).reverse := by
    rw [dropSlashes, String.toList_ofList, hs]
  have hurl : url.toList = (s.dropWhile (· = '/')).reverse ++ (s.takeWhile (· = '/')).reverse := by
    rw [← List.reverse_append, List.takeWhile_append_dropWhile, hs, List.reverse_reverse]
  have hslashes : (s.takeWhile (· = '/')).reverse =
      List.replicate (s.takeWhile (· = '/')).reverse.length '/' := by
    rw [List.eq_replicate_iff]
    refine ⟨rfl, fun c hc => ?_⟩
    have hslash := List.mem_takeWhile_imp (List.mem_reverse.mp hc)
    exact of_decide_eq_true hslash
  unfold WithoutSlashes
  rw [hbase, hurl, List.getLast?_reverse]
  refine ⟨⟨_, congrArg _ hslashes⟩, fun hslash => ?_⟩
  have hnot := List.head?_dropWhile_not (fun c : Char => decide (c = '/')) s
  rw [hslash] at hnot
  cases hnot

/-! ## What a configuration has -/

/-- A configuration has what an option sets. -/
def Has (system : String) (config : Config) : ClientOption → Prop
  | .token token => config.credential = some (.bearer token)
  | .key keyId secret => config.credential = some (.signature keyId secret)
  | .baseUrl url => WithoutSlashes url config.baseUrl
  | .userAgent name =>
    config.userAgent = if name = "" then defaultUserAgent config.version system else name
  | .logger name => config.logger = Levels.knownName name
  | .transport name => config.transport = .supplied name
  | .reportsFailures reports => config.reportsFailures = reports
  | .receiver name => config.receiver = some name ∧ config.measures = true
  | .version version => config.version = version
  | _ => True

/-- A configuration has the default of a field. -/
def HasDefault (system : String) (config : Config) : OptionField → Prop
  | .baseUrl => config.baseUrl = "https://engine.anexia-it.com"
  | .credential => config.credential = none
  | .transport => config.transport = .network
  | .userAgent => config.userAgent = defaultUserAgent config.version system
  | .logger => config.logger = "anxcloud_core"
  | .reportsFailures => config.reportsFailures = true
  | .receiver => config.receiver = none ∧ config.measures = false
  | .version => config.version = "0.1.0"
  | _ => True

namespace Draft

variable {d : Draft} {o p : ClientOption} {options : List ClientOption} {system : String}
  {config : Config}

/-- A draft agrees with the one that no option has been applied to on a field. -/
def Blank (d : Draft) : OptionField → Prop
  | .baseUrl => d.baseUrl = defaultBaseUrl
  | .credential => d.credential = none
  | .transport => d.transport = .network
  | .userAgent => d.userAgent = ""
  | .logger => d.logger = defaultLogger
  | .reportsFailures => d.reportsFailures = true
  | .receiver => d.receiver = none
  | .version => d.version = libraryVersion
  | _ => True

theorem blank_start (field : OptionField) : Blank {} field := by
  cases field <;> first | rfl | trivial

theorem Blank.put {field : OptionField} (h : d.Blank field) (hfield : o.field ≠ field) :
    (d.put o).Blank field := by
  cases o <;> cases field <;> first | exact h | exact absurd rfl hfield

theorem put_put (d : Draft) (o : ClientOption) : (d.put o).put o = d.put o := by
  cases o <;> rfl

/-- The last option of its field changes nothing any more. -/
theorem put_foldl (h : IsLast options o) :
    (options.foldl Draft.put {}).put o = options.foldl Draft.put {} := by
  induction options using List.reverseRecOn with
  | nil =>
    obtain ⟨before, after, hsplit, -⟩ := h
    exact absurd hsplit.symm (List.append_ne_nil_of_right_ne_nil _ (List.cons_ne_nil _ _))
  | append_singleton options p ih =>
    rw [List.foldl_append, List.foldl_cons, List.foldl_nil]
    rcases ClientOption.isLast_concat h with rfl | ⟨hlast, hfield⟩
    · exact put_put _ _
    · rw [put_comm _ hfield, ih hlast]

theorem blank_foldl {field : OptionField} (h : ∀ o ∈ options, o.field ≠ field) :
    (options.foldl Draft.put {}).Blank field := by
  induction options using List.reverseRecOn with
  | nil => exact blank_start field
  | append_singleton options o ih =>
    rw [List.forall_mem_append] at h
    rw [List.foldl_append]
    exact (ih h.1).put (h.2 o (List.mem_singleton_self o))

theorem credential_foldl (options : List ClientOption) :
    (options.foldl Draft.put {}).credential = (credentials options).getLast? := by
  induction options using List.reverseRecOn with
  | nil => rfl
  | append_singleton options o ih =>
    rw [List.foldl_append, List.foldl_cons, List.foldl_nil, credential_put, ih,
      ClientOption.credentials_concat]
    cases o.credential? with
    | none => rw [Option.none_or, Option.toList_none, List.append_nil]
    | some c => rw [Option.some_or, Option.toList_some, List.getLast?_concat]

theorem credentialOptional_foldl (options : List ClientOption) :
    (options.foldl Draft.put {}).credentialOptional = true ↔ .credentialOptional ∈ options := by
  induction options using List.reverseRecOn with
  | nil => simp
  | append_singleton options o ih =>
    rw [List.foldl_append, List.foldl_cons, List.foldl_nil, List.mem_append, ← ih,
      List.mem_singleton]
    cases o <;> simp [put]

/-- A draft makes a configuration exactly if it has a credential or needs none. -/
theorem finish_cases (system : String) (options : List ClientOption) :
    (credentials options ≠ [] ∨ .credentialOptional ∈ options) ∧
        (∃ config, (options.foldl Draft.put {}).finish system = .ok config) ∨
      ¬ (credentials options ≠ [] ∨ .credentialOptional ∈ options) ∧
        (options.foldl Draft.put {}).finish system = .error .noCredential := by
  have hmissing : ((options.foldl Draft.put {}).credential.isNone &&
      !(options.foldl Draft.put {}).credentialOptional) = true ↔
        ¬ (credentials options ≠ [] ∨ .credentialOptional ∈ options) := by
    rw [Bool.and_eq_true, Bool.not_eq_true', ← Bool.not_eq_true, credentialOptional_foldl,
      credential_foldl, Option.isNone_iff_eq_none, List.getLast?_eq_none_iff, not_or, not_not]
  unfold finish
  split
  · rename_i h
    exact Or.inr ⟨hmissing.mp h, rfl⟩
  · rename_i h
    exact Or.inl ⟨not_not.mp fun hnot => h (hmissing.mpr hnot), _, rfl⟩

theorem has_of_finish (h : d.finish system = .ok config) (ho : d.put o = d) :
    config.Has system o := by
  unfold finish at h
  split at h
  · cases h
  · cases h
    cases o with
    | token token => exact (congrArg Draft.credential ho).symm
    | key keyId secret => exact (congrArg Draft.credential ho).symm
    | baseUrl url =>
      have hurl : url = d.baseUrl := congrArg Draft.baseUrl ho
      show WithoutSlashes url (dropSlashes d.baseUrl)
      rw [hurl]
      exact withoutSlashes_dropSlashes _
    | userAgent name =>
      have hname : name = d.userAgent := congrArg Draft.userAgent ho
      rw [hname]
      rfl
    | logger name => exact (congrArg Draft.logger ho).symm
    | transport name => exact (congrArg Draft.transport ho).symm
    | reportsFailures reports => exact (congrArg Draft.reportsFailures ho).symm
    | receiver name =>
      have hname : some name = d.receiver := congrArg Draft.receiver ho
      exact ⟨hname.symm, congrArg Option.isSome hname.symm⟩
    | version version => exact (congrArg Draft.version ho).symm
    | _ => trivial

theorem hasDefault_of_finish {field : OptionField} (h : d.finish system = .ok config)
    (hd : d.Blank field) : config.HasDefault system field := by
  unfold finish at h
  split at h
  · cases h
  · cases h
    cases field with
    | baseUrl =>
      have hurl : d.baseUrl = defaultBaseUrl := hd
      show dropSlashes d.baseUrl = _
      rw [hurl]
      decide
    | userAgent => exact if_pos hd
    | receiver => exact ⟨hd, congrArg Option.isSome hd⟩
    | credentialOptional => trivial
    | resolver => trivial
    | _ => exact hd

end Draft

/-! ## Building -/

variable {levels : Levels} {system : String} {options : List ClientOption}

/-- Options are all applied, or the first one that is refused ends it. -/
theorem foldlM_cases (levels : Levels) (hself : ∀ o ∈ options, o.selfContained = true) :
    Compatible (credentials options) ∧
        options.foldlM (Draft.apply levels) {} = pure (options.foldl Draft.put {}) ∨
      ∃ e, FirstOffence options e ∧ options.foldlM (Draft.apply levels) {} = throw e := by
  induction options using List.reverseRecOn with
  | nil => exact Or.inl ⟨Compatible.nil, rfl⟩
  | append_singleton options o ih =>
    rw [List.forall_mem_append] at hself
    rw [List.foldlM_append, List.foldl_append]
    rcases ih hself.1 with ⟨hbefore, hfold⟩ | ⟨e, hfirst, hfold⟩
    · rw [hfold, pure_bind, List.foldlM_cons]
      rcases Draft.apply_cases levels (hself.2 o (List.mem_singleton_self o)) hbefore
        (Draft.credential_foldl options) with ⟨hcompatible, happly⟩ | ⟨e, hoffends, happly⟩
      · left
        refine ⟨hcompatible, ?_⟩
        rw [happly, pure_bind]
        rfl
      · right
        refine ⟨e, ⟨options, o, [], rfl, unoffending_iff.mpr hbefore, hoffends⟩, ?_⟩
        rw [happly]
        rfl
    · right
      refine ⟨e, hfirst.concat o, ?_⟩
      rw [hfold]
      rfl

theorem FirstOffence.not_compatible {e : Error} (h : FirstOffence options e) :
    ¬ Compatible (credentials options) := by
  obtain ⟨before, o, after, hsplit, -, ho⟩ := h
  intro hcompatible
  exact unoffending_iff.mpr hcompatible before o after e hsplit ho

/-- Building gives the configuration of the last options, fails with the first option that is
refused, or fails without a credential; and it leaves its surroundings alone. -/
theorem build_cases (levels : Levels) (system : String)
    (hself : ∀ o ∈ options, o.selfContained = true) :
    (∃ e, FirstOffence options e ∧ build levels system options = throw e) ∨
      Compatible (credentials options) ∧
        ((¬ (credentials options ≠ [] ∨ .credentialOptional ∈ options) ∧
            build levels system options = throw (.configuration .noCredential)) ∨
          ((credentials options ≠ [] ∨ .credentialOptional ∈ options) ∧
            ∃ config, (options.foldl Draft.put {}).finish system = .ok config ∧
              build levels system options = pure config)) := by
  rcases foldlM_cases levels hself with ⟨hcompatible, hfold⟩ | ⟨e, hfirst, hfold⟩
  · right
    refine ⟨hcompatible, ?_⟩
    unfold build
    rw [hfold, pure_bind]
    rcases Draft.finish_cases system options with ⟨hgiven, config, hfinish⟩ | ⟨hnone, hfinish⟩
    · rw [hfinish]
      exact Or.inr ⟨hgiven, config, rfl, rfl⟩
    · rw [hfinish]
      exact Or.inl ⟨hnone, rfl⟩
  · left
    refine ⟨e, hfirst, ?_⟩
    unfold build
    rw [hfold]
    rfl

/-- Neighbouring options of different fields can change places. -/
theorem build_swap {before after : List ClientOption} {a b : ClientOption}
    (ha : a.selfContained = true) (hb : b.selfContained = true) (hfield : a.field ≠ b.field) :
    build levels system (before ++ b :: a :: after) =
      build levels system (before ++ a :: b :: after) := by
  have hfold : ∀ d : Draft, (b :: a :: after).foldlM (Draft.apply levels) d =
      (a :: b :: after).foldlM (Draft.apply levels) d := by
    intro d
    rw [List.foldlM_cons, List.foldlM_cons]
    simp only [List.foldlM_cons]
    rw [← bind_assoc, ← bind_assoc, Draft.apply_comm ha hb hfield]
  unfold build
  rw [List.foldlM_append, List.foldlM_append]
  simp only [hfold]

/-- Options that have nothing to do with the environment are a fold in which the last one wins.
Building succeeds exactly if no credential is empty, all are of one kind, and there is one or none
is needed; each field is then that of the last option that sets it, or the default. Otherwise the
error is that of the first option that is refused, or else that of the missing credential. The
surroundings stay as they are, and neighbouring options of different fields can change places. -/
theorem build_last_wins (levels : Levels) (system : String) (w : Surroundings)
    (hself : ∀ o ∈ options, o.selfContained = true) :
    ((∃ config w', (build levels system options).run w = .ok config w') ↔
      (∀ c ∈ credentials options, c.Filled) ∧
        (∀ c ∈ credentials options, ∀ b ∈ credentials options, c.sameKind b = true) ∧
        (credentials options ≠ [] ∨ .credentialOptional ∈ options)) ∧
    (∀ config w', (build levels system options).run w = .ok config w' → w' = w ∧
      (∀ o, IsLast options o → config.Has system o) ∧
      ∀ field, (∀ o ∈ options, o.field ≠ field) → config.HasDefault system field) ∧
    (∀ e w', (build levels system options).run w = .error e w' → w' = w ∧
      (FirstOffence options e ∨
        Unoffending options ∧ e = .configuration .noCredential)) ∧
    ∀ before a b after, options = before ++ a :: b :: after → a.field ≠ b.field →
      (build levels system (before ++ b :: a :: after)).run w =
        (build levels system options).run w := by
  have hswap : ∀ before a b after, options = before ++ a :: b :: after → a.field ≠ b.field →
      (build levels system (before ++ b :: a :: after)).run w =
        (build levels system options).run w := by
    rintro before a b after rfl hfield
    have ha : a ∈ before ++ a :: b :: after := List.mem_append_right _ List.mem_cons_self
    have hb : b ∈ before ++ a :: b :: after :=
      List.mem_append_right _ (List.mem_cons_of_mem _ List.mem_cons_self)
    rw [build_swap (hself a ha) (hself b hb) hfield]
  rcases build_cases levels system hself with
    ⟨e, hfirst, hbuild⟩ | ⟨hcompatible, ⟨hnone, hbuild⟩ | ⟨hgiven, config, hfinish, hbuild⟩⟩
  · rw [hbuild] at hswap ⊢
    refine ⟨iff_of_false ?_ ?_, ?_, ?_, hswap⟩
    · rintro ⟨config, w', h⟩
      cases h
    · rintro ⟨hfilled, hkind, -⟩
      exact FirstOffence.not_compatible hfirst ⟨hfilled, hkind⟩
    · intro config w' h
      cases h
    · intro e' w' h
      cases h
      exact ⟨rfl, Or.inl hfirst⟩
  · rw [hbuild] at hswap ⊢
    refine ⟨iff_of_false ?_ fun h => hnone h.2.2, ?_, ?_, hswap⟩
    · rintro ⟨config, w', h⟩
      cases h
    · intro config w' h
      cases h
    · intro e w' h
      cases h
      exact ⟨rfl, Or.inr ⟨unoffending_iff.mpr hcompatible, rfl⟩⟩
  · rw [hbuild] at hswap ⊢
    refine ⟨iff_of_true ⟨config, w, rfl⟩ ⟨hcompatible.filled, hcompatible.oneKind, hgiven⟩, ?_, ?_,
      hswap⟩
    · intro config' w' h
      cases h
      refine ⟨rfl, fun o ho => Draft.has_of_finish hfinish (Draft.put_foldl ho), ?_⟩
      intro field hfield
      exact Draft.hasDefault_of_finish hfinish (Draft.blank_foldl hfield)
    · intro e w' h
      cases h

/-- A second token, an empty name and a version in front of it. -/
theorem build_last_wins_of_second_token :
    let options : List ClientOption := [.token "first", .version "1.2.3", .userAgent "agent",
      .receiver "a", .token "second", .userAgent "", .receiver "b", .baseUrl "https://e.test//"]
    let w : Surroundings := { env := [], log := [] }
    (∀ o ∈ options, o.selfContained = true) ∧
      ∃ config, (build [] "Linux" options).run w = .ok config w ∧
        config.credential = some (.bearer "second") ∧ config.receiver = some "b" ∧
        config.userAgent = defaultUserAgent "1.2.3" "Linux" ∧
        WithoutSlashes "https://e.test//" config.baseUrl ∧ config.reportsFailures = true := by
  intro options w
  have hself : ∀ o ∈ options, o.selfContained = true := by decide
  obtain ⟨hsucceeds, hfields, -, -⟩ := build_last_wins [] "Linux" w hself
  have hfilled : ∀ c ∈ credentials options, c.Filled := by
    intro c hc
    rcases List.mem_cons.mp hc with rfl | hc
    · show "first" ≠ ""
      decide
    · obtain rfl := List.mem_singleton.mp hc
      show "second" ≠ ""
      decide
  have hkind : ∀ c ∈ credentials options, ∀ b ∈ credentials options, c.sameKind b = true := by
    decide
  obtain ⟨config, w', hrun⟩ := hsucceeds.mpr ⟨hfilled, hkind, Or.inl (List.cons_ne_nil _ _)⟩
  obtain ⟨rfl, hlast, hdefault⟩ := hfields config w' hrun
  have hversion : config.version = "1.2.3" :=
    hlast (.version "1.2.3") ⟨[.token "first"], _, rfl, by decide⟩
  have hname : config.userAgent = defaultUserAgent config.version "Linux" :=
    hlast (.userAgent "") ⟨[.token "first", .version "1.2.3", .userAgent "agent", .receiver "a",
      .token "second"], _, rfl, by decide⟩
  have hreceiver := hlast (.receiver "b") ⟨[.token "first", .version "1.2.3", .userAgent "agent",
    .receiver "a", .token "second", .userAgent ""], _, rfl, by decide⟩
  refine ⟨hself, config, hrun, ?_, hreceiver.1, hversion ▸ hname, ?_, ?_⟩
  · exact hlast (.token "second") ⟨[.token "first", .version "1.2.3", .userAgent "agent",
      .receiver "a"], _, rfl, by decide⟩
  · exact hlast (.baseUrl "https://e.test//") ⟨[.token "first", .version "1.2.3",
      .userAgent "agent", .receiver "a", .token "second", .userAgent "", .receiver "b"], _, rfl,
      by decide⟩
  · exact hdefault .reportsFailures (by decide)

end ApiClient.Config
