import ApiClient.Proofs.Auth.Signature

/-!
# What an edit leaves as it was

An edit of a request keeps the method, the address and the rows of all header fields but those that
it names, whether it succeeds or fails on the way. Preparing a signature names host and date, and
the fields that describe a body only if there is one; signing names the authorization field too.
Nothing but a signature for a body settles the character set of the header fields.
-/

namespace ApiClient

namespace Headers

/-- The rows of all fields but `names`, in order. -/
def besides (h : Headers) (names : List String) : List HeaderRow :=
  h.rows.filter fun r => r.key ∉ names.map fieldKey

/-- Setting a field leaves the rows of the others. -/
theorem besides_set {h t : Headers} {name value : String} {names : List String}
    (hname : IsAscii name) (hmem : name ∈ names) (hset : h.set name value = .ok t) :
    t.besides names = h.besides names := by
  obtain ⟨v, -, -, rfl⟩ := eq_of_set hname hset
  have hkey : HeaderRow.key { name := asciiBytes name, value := v } ∈ names.map fieldKey :=
    List.mem_map_of_mem (f := fieldKey) hmem
  exact filter_putRow (p := fun key => key ∉ names.map fieldKey)
    (decide_eq_false fun hnot => hnot hkey) h.rows

/-- Header fields that agree but for some names agree on any other name. -/
theorem filter_eq_of_besides {h t : Headers} {name : String} {names : List String}
    (hbesides : t.besides names = h.besides names)
    (hother : fieldKey name ∉ names.map fieldKey) :
    t.rows.filter (fun r => r.key = fieldKey name) =
      h.rows.filter fun r => r.key = fieldKey name := by
  have hfilter : ∀ headers : Headers, (headers.besides names).filter
      (fun r => r.key = fieldKey name) = headers.rows.filter fun r => r.key = fieldKey name :=
    fun headers => filter_filter_key (p := fun k => k = fieldKey name)
      (q := fun k => k ∉ names.map fieldKey)
      (fun k hk => decide_eq_true (of_decide_eq_true hk ▸ hother)) headers.rows
  rw [← hfilter, ← hfilter, hbesides]

theorem settled_set {h t : Headers} {name value : String} (hset : h.set name value = .ok t) :
    t.settled = h.settled := by
  obtain ⟨n, v, -, -, -, rfl⟩ := set_eq_ok.mp hset
  rfl

end Headers

/-- A request is another one but for its body and the header fields `names`. -/
structure Request.KeptBesides (names : List String) (t r : Request) : Prop where
  /-- The method. -/
  method : t.method = r.method
  /-- The address. -/
  url : t.url = r.url
  /-- The rows of the other header fields, in order. -/
  rows : t.headers.besides names = r.headers.besides names

namespace Request.KeptBesides

variable {names : List String} {r t u : Request}

theorem refl (names : List String) (r : Request) : KeptBesides names r r :=
  ⟨rfl, rfl, rfl⟩

theorem trans (h : KeptBesides names u t) (h' : KeptBesides names t r) : KeptBesides names u r :=
  ⟨h.method.trans h'.method, h.url.trans h'.url, h.rows.trans h'.rows⟩

theorem mono {more : List String} (h : KeptBesides names t r) (hsub : names ⊆ more) :
    KeptBesides more t r := by
  refine ⟨h.method, h.url, ?_⟩
  have hfilter : ∀ headers : Headers, (headers.besides names).filter
      (fun r => r.key ∉ more.map Headers.fieldKey) = headers.besides more := fun headers =>
    filter_filter_key (p := fun k => k ∉ more.map Headers.fieldKey)
      (q := fun k => k ∉ names.map Headers.fieldKey)
      (fun k hk => decide_eq_true fun hmem =>
        of_decide_eq_true hk (List.map_subset Headers.fieldKey hsub hmem)) headers.rows
  rw [← hfilter, ← hfilter, h.rows]

end Request.KeptBesides

namespace Edit

variable {α β : Type} {names : List String} {x : Edit α} {f : α → Edit β} {r t : Request}

/-- The request that an edit leaves, whether it succeeds or fails. -/
def after (x : Edit α) (r : Request) : Request :=
  match x.run r with
  | .ok _ t => t
  | .error _ t => t

/-- An edit keeps a request but for its body and the header fields `names`, whether it succeeds or
fails. -/
def Keeps (names : List String) (x : Edit α) (r : Request) : Prop :=
  Request.KeptBesides names (x.after r) r

theorem after_of_ok {a : α} (h : x.run r = .ok a t) : x.after r = t := by
  rw [after, h]

theorem Keeps.bind (hx : x.Keeps names r)
    (hf : ∀ a t, x.run r = .ok a t → (f a).Keeps names t) : (x >>= f).Keeps names r := by
  unfold Keeps after at hx ⊢
  rw [EStateM.run_bind]
  cases hrun : x.run r with
  | error e t =>
    rw [hrun] at hx
    exact hx
  | ok a t =>
    rw [hrun] at hx
    exact (hf a t hrun).trans hx

theorem Keeps.mono {more : List String} (h : x.Keeps names r) (hsub : names ⊆ more) :
    x.Keeps more r :=
  Request.KeptBesides.mono h hsub

theorem keeps_get_bind {f : Request → Edit β} (h : (f r).Keeps names r) :
    (get >>= f).Keeps names r := h

theorem keeps_pure (a : α) : (pure a : Edit α).Keeps names r := Request.KeptBesides.refl names r

theorem keeps_ofExcept_bind {e : Except Fault α} (h : ∀ a, (f a).Keeps names r) :
    (ofExcept e >>= f).Keeps names r := by
  cases e with
  | ok a => exact h a
  | error e => exact Request.KeptBesides.refl names r

theorem keeps_header (name : String) : (header name).Keeps names r := ⟨rfl, rfl, rfl⟩

theorem keeps_body : body.Keeps names r := by
  have hrun : body.run r = (ofExcept (r.read .blocking).1).run (r.read .blocking).2 := rfl
  unfold Keeps after
  rw [hrun]
  cases (r.read .blocking).1 with
  | ok bytes => exact ⟨rfl, rfl, rfl⟩
  | error f => exact ⟨rfl, rfl, rfl⟩

theorem keeps_setHeader {name : String} (hname : IsAscii name) (hmem : name ∈ names)
    (value : String) : (setHeader name value).Keeps names r := by
  unfold Keeps after
  cases hset : r.headers.set name value with
  | ok headers =>
    rw [setHeader_of_ok hset]
    exact ⟨rfl, rfl, Headers.besides_set hname hmem hset⟩
  | error e =>
    rw [setHeader_of_error hset]
    exact Request.KeptBesides.refl names r

theorem keeps_setHeader_bind {name value : String} {f : Unit → Edit β} (hname : IsAscii name)
    (hmem : name ∈ names) (h : ∀ headers, (f ()).Keeps names { r with headers }) :
    (setHeader name value >>= f).Keeps names r := by
  refine (keeps_setHeader hname hmem value).bind fun _ t ht => ?_
  obtain ⟨headers, -, rfl⟩ := setHeader_eq_ok.mp ht
  exact h headers

end Edit

namespace Signature

variable {names : List String} {r t : Request} {now : Int} {date : Option String}

/-- The names of the header fields that are set to prepare a signature for a body. -/
def preparedNames (body : List UInt8) : List String :=
  if body = [] then ["host", "date"] else ["host", "date"] ++ describingNames

theorem keeps_mapM_header (described : List String) :
    (described.mapM fun name => return line name (← Edit.header name)).Keeps names r := by
  induction described generalizing r with
  | nil => exact Edit.keeps_pure []
  | cons name rest ih =>
    rw [List.mapM_cons]
    refine ((Edit.keeps_header name).bind fun _ _ _ => Edit.keeps_pure _).bind fun _ _ _ => ?_
    exact ih.bind fun _ _ _ => Edit.keeps_pure _

theorem keeps_describe (hsub : describingNames ⊆ names) (body : List UInt8) :
    (describe body).Keeps names r := by
  refine Edit.keeps_setHeader_bind (by decide) (hsub (by decide)) fun _ => ?_
  refine Edit.keeps_setHeader_bind (by decide) (hsub (by decide)) fun _ => ?_
  refine Edit.keeps_setHeader_bind (by decide) (hsub (by decide)) fun _ => ?_
  exact keeps_mapM_header describingNames

/-- Preparing a signature keeps a request but for host and date, and for the fields that describe
its body if it has one that can be read. -/
theorem keeps_prepare (now : Int) (date : Option String) (r : Request) :
    (prepare now date).Keeps (preparedNames ((r.read .blocking).1.toOption.getD [])) r := by
  -- which fields are set depends on the body, which is read after host and date are set
  obtain ⟨fields, hfields⟩ :
      ∃ fields, fields = preparedNames ((r.read .blocking).1.toOption.getD []) := ⟨_, rfl⟩
  have hsub : ["host", "date"] ⊆ fields := by
    rw [hfields, preparedNames]
    split
    · exact List.Subset.refl _
    · exact List.subset_append_left _ _
  rw [← hfields]
  refine Edit.keeps_get_bind ?_
  refine Edit.keeps_ofExcept_bind fun host => ?_
  refine Edit.keeps_ofExcept_bind fun date => ?_
  refine Edit.keeps_setHeader_bind (by decide) (hsub (by decide)) fun first => ?_
  refine Edit.keeps_setHeader_bind (by decide) (hsub (by decide)) fun second => ?_
  refine Edit.keeps_body.bind fun body _ hbody => ?_
  have hread : (r.read .blocking).1 = .ok body := (Edit.body_eq_ok hbody).1
  rw [hread] at hfields
  cases body with
  | nil => exact Edit.keeps_pure _
  | cons b rest =>
    have hdescribing : describingNames ⊆ fields := by
      rw [hfields]
      exact List.subset_append_right _ _
    exact (keeps_describe hdescribing _).bind fun _ _ _ => Edit.keeps_pure _

/-- Signing sets the authorization field besides. -/
theorem keeps_sign (now : Int) (keyId secret : String) (date : Option String) (r : Request) :
    (sign now keyId secret date).Keeps
      ("Authorization" :: preparedNames ((r.read .blocking).1.toOption.getD [])) r := by
  refine ((keeps_prepare now date r).mono (List.subset_cons_self _ _)).bind fun _ _ _ => ?_
  exact Edit.keeps_setHeader (by decide) List.mem_cons_self _

/-- Preparing a request whose body is held changes its header fields only. -/
theorem eq_of_prepare {bytes : List UInt8} {lines names : List String}
    (hbody : r.body = .held bytes)
    (h : (prepare now date).run r = .ok (lines, names) t) : ∃ headers, t = { r with headers } := by
  obtain ⟨_, _, second, content, -, -, hread, -, -, _, -, hends⟩ := prepare_eq_ok h
  rw [Request.read_of_held hbody] at hread
  cases hread
  have hheld : ∀ headers, { r with headers, body := .held bytes } = { r with headers } := by
    intro headers
    rw [← hbody]
  rcases hends with ⟨-, -, -, rfl⟩ | ⟨-, -, hdescribe⟩
  · exact ⟨second, hheld second⟩
  · obtain ⟨⟨headers, rfl⟩, -⟩ := describe_spec hdescribe
    exact ⟨headers, hheld headers⟩

/-- Describing a body reads its fields back, which settles the character set of the header fields
that were set. -/
theorem describe_settles {body : List UInt8} {lines : List String}
    (h : (describe body).run r = .ok lines t) :
    ∃ headers : Headers, headers.settled = r.headers.settled ∧ t.headers = headers.settle := by
  obtain ⟨kind, hkind, h⟩ := Edit.setHeader_bind_eq_ok.mp h
  obtain ⟨length, hlength, h⟩ := Edit.setHeader_bind_eq_ok.mp h
  obtain ⟨digest, hdigest, h⟩ := Edit.setHeader_bind_eq_ok.mp h
  refine ⟨digest, ?_, ?_⟩
  · exact (Headers.settled_set hdigest).trans
      ((Headers.settled_set hlength).trans (Headers.settled_set hkind))
  · rw [(mapM_header (List.cons_ne_nil _ _) h).1]

theorem settled_of_describe {body : List UInt8} {lines : List String}
    (h : (describe body).run r = .ok lines t) : t.headers.settled = some t.headers.charset := by
  obtain ⟨headers, -, hsettles⟩ := describe_settles h
  rw [hsettles]
  rfl

end Signature

namespace Authorization

variable {now : Int} {a : Authorization} {r t : Request} {body : List UInt8}

/-- Whether requests are signed. -/
def signs : Authorization → Bool
  | credential (.signature ..) => true
  | _ => false

/-- The names of the header fields that a request is given for its authorization. -/
def ownNames (a : Authorization) (body : List UInt8) : List String :=
  "Authorization" :: if a.signs then Signature.preparedNames body else []

/-- Attaching an authorization to a request whose body is held changes its header fields only. -/
theorem eq_of_attach (hbody : r.body = .held body) (h : (a.attach now).run r = .ok () t) :
    ∃ headers, t = { r with headers } := by
  cases a with
  | none =>
    cases h
    exact ⟨r.headers, rfl⟩
  | foreign value => cases h
  | credential k =>
    cases k with
    | bearer token =>
      obtain ⟨headers, -, rfl⟩ := Edit.setHeader_eq_ok.mp h
      exact ⟨headers, rfl⟩
    | signature keyId secret =>
      obtain ⟨⟨lines, names⟩, u, hu, h⟩ := Edit.bind_eq_ok.mp h
      obtain ⟨_, rfl⟩ := Signature.eq_of_prepare hbody hu
      obtain ⟨headers, -, rfl⟩ := Edit.setHeader_eq_ok.mp h
      exact ⟨headers, rfl⟩

theorem keeps_attach (now : Int) (a : Authorization) (hbody : r.body = .held body) :
    (a.attach now).Keeps (a.ownNames body) r := by
  cases a with
  | none => exact Edit.keeps_pure ()
  | foreign value => exact Request.KeptBesides.refl _ r
  | credential k =>
    cases k with
    | bearer token => exact Edit.keeps_setHeader (by decide) List.mem_cons_self _
    | signature keyId secret =>
      have hsign := Signature.keeps_sign now keyId secret Option.none r
      rw [Request.read_of_held hbody] at hsign
      exact hsign

/-- Only a signature for a body settles the character set of the header fields. -/
theorem settled_of_attach (hbody : r.body = .held body) (h : (a.attach now).run r = .ok () t) :
    if a.signs ∧ body ≠ [] then ∃ set, t.headers.settled = some set
    else t.headers.settled = r.headers.settled := by
  cases a with
  | none =>
    cases h
    rw [if_neg (by simp [signs])]
  | foreign value => cases h
  | credential k =>
    cases k with
    | bearer token =>
      obtain ⟨headers, hheaders, rfl⟩ := Edit.setHeader_eq_ok.mp h
      rw [if_neg (by simp [signs])]
      exact Headers.settled_set hheaders
    | signature keyId secret =>
      obtain ⟨⟨lines, names⟩, u, hu, h⟩ := Edit.bind_eq_ok.mp h
      obtain ⟨headers, hheaders, rfl⟩ := Edit.setHeader_eq_ok.mp h
      obtain ⟨_, first, second, content, -, -, hread, hfirst, hsecond, more, -, hends⟩ :=
        Signature.prepare_eq_ok hu
      rw [Request.read_of_held hbody] at hread
      cases hread
      have hcarried : ({ u with headers } : Request).headers.settled = u.headers.settled :=
        Headers.settled_set hheaders
      rw [hcarried]
      rcases hends with ⟨rfl, -, -, rfl⟩ | ⟨hsome, -, hdescribe⟩
      · rw [if_neg fun hsigned => hsigned.2 rfl]
        exact (Headers.settled_set hsecond).trans (Headers.settled_set hfirst)
      · rw [if_pos ⟨rfl, hsome⟩]
        exact ⟨_, Signature.settled_of_describe hdescribe⟩

end Authorization

end ApiClient
