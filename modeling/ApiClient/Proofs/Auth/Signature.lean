import ApiClient.Proofs.Auth.Verifier

/-!
# Signatures are verified

The lines that are signed are those that a verifier makes from the signed request. `Prepared` says
so of a request before its signature is added, which only sets one more field.
-/

namespace ApiClient.Signature

variable {r t : Request} {now : Int} {keyId secret date : String} {lines names : List String}
  {body : List UInt8}

/-- The fields of `names` are to be signed with `lines`: each has a single row, and a verifier makes
its line. The last ones describe the body, if there is one. -/
structure Prepared (r : Request) (body : List UInt8) (lines names : List String) : Prop where
  /-- The body has been read. -/
  held : r.body = .held body
  /-- The names depend on whether there is a body. -/
  names_eq : names = if body = [] then bodylessNames else bodyNames
  /-- The fields have single rows. -/
  holds : ∀ name ∈ names, name ≠ targetName → ∃ value, r.headers.Holds name value
  /-- The lines are those of a verifier. -/
  lines_eq : lines = names.map (lineOf r)
  /-- The length of a body is given. -/
  length : body ≠ [] → r.headers.Holds "content-length" (toString body.length)
  /-- The digest of a body is given. -/
  digest : body ≠ [] → r.headers.Holds "digest" (bodyDigest body)

theorem hostText_eq_ok {u : Url} {host : String} (h : u.hostText = .ok host) :
    host = u.netloc ∧ IsAscii u.netloc := by
  unfold Url.hostText at h
  cases hbytes : Charset.ascii.encode u.netloc.toList with
  | error e => rw [hbytes] at h; cases h
  | ok bytes =>
    rw [hbytes] at h
    cases h
    exact ⟨rfl, isAscii_of_encode hbytes⟩

theorem lineOf_of_holds {name value : String} (hname : name ≠ targetName)
    (h : r.headers.Holds name value) : lineOf r name = line name value := by
  rw [lineOf, if_neg hname, h.get?, Option.getD_some]

theorem map_lineOf_bodylessNames (r : Request) {host : String} (hhost : r.headers.Holds "host" host)
    (hdate : r.headers.Holds "date" date) : bodylessNames.map (lineOf r) =
      [line targetName (Text.lower r.method ++ " " ++ r.url.target), line "host" host,
        line "date" date] := by
  show [lineOf r targetName, lineOf r "host", lineOf r "date"] = _
  rw [lineOf_of_holds (by decide) hhost, lineOf_of_holds (by decide) hdate, lineOf, if_pos rfl]

theorem holds_bodylessNames {headers : Headers} {host : String} (hhost : headers.Holds "host" host)
    (hdate : headers.Holds "date" date) :
    ∀ name ∈ bodylessNames, name ≠ targetName → ∃ value, headers.Holds name value := by
  intro name hname htarget
  simp only [bodylessNames, List.mem_cons, List.not_mem_nil, or_false] at hname
  rcases hname with rfl | rfl | rfl
  · exact absurd rfl htarget
  · exact ⟨_, hhost⟩
  · exact ⟨_, hdate⟩

theorem isAscii_bodyDigest (body : List UInt8) : IsAscii (bodyDigest body) :=
  IsAscii.append (by decide) (Text.Base64.isAscii_encode _)

/-- Reading fields settles their character set, and gives their lines. -/
theorem mapM_header {described : List String} (hsome : described ≠ [])
    (h : (described.mapM fun name => return line name (← Edit.header name)).run r = .ok lines t) :
    t = { r with headers := r.headers.settle } ∧
      lines = described.map fun name => line name ((r.headers.get? name).getD "") := by
  induction described generalizing r lines with
  | nil => exact absurd rfl hsome
  | cons name rest ih =>
    rw [List.mapM_cons] at h
    obtain ⟨text, s, hs, h⟩ := Edit.bind_eq_ok.mp h
    obtain ⟨more, u, hu, h⟩ := Edit.bind_eq_ok.mp h
    obtain ⟨rfl, rfl⟩ := Edit.pure_eq_ok.mp h
    obtain ⟨value, v, hv, hs⟩ := Edit.bind_eq_ok.mp hs
    obtain ⟨rfl, rfl⟩ := Edit.pure_eq_ok.mp hs
    rw [Edit.header_run] at hv
    cases hv
    cases rest with
    | nil =>
      obtain ⟨rfl, rfl⟩ := Edit.pure_eq_ok.mp hu
      exact ⟨rfl, rfl⟩
    | cons next rest =>
      -- the fields are settled already, so they are read as they were
      obtain ⟨rfl, rfl⟩ := ih (List.cons_ne_nil _ _) hu
      exact ⟨rfl, rfl⟩

/-- Describing a body sets three fields to ASCII values and leaves the fields for host and date. -/
theorem describe_eq_ok (h : (describe body).run r = .ok lines t) :
    (∃ headers, t = { r with headers }) ∧
      lines = [line "content-type" "application/json", line "content-length" (toString body.length),
        line "digest" (bodyDigest body)] ∧
      t.headers.Holds "content-type" "application/json" ∧
      t.headers.Holds "content-length" (toString body.length) ∧
      t.headers.Holds "digest" (bodyDigest body) ∧
      ∀ name value, name ∈ ["host", "date"] → r.headers.Holds name value →
        t.headers.Holds name value := by
  obtain ⟨kind, hkind, h⟩ := Edit.setHeader_bind_eq_ok.mp h
  obtain ⟨length, hlength, h⟩ := Edit.setHeader_bind_eq_ok.mp h
  obtain ⟨digest, hdigest, h⟩ := Edit.setHeader_bind_eq_ok.mp h
  obtain ⟨rfl, rfl⟩ := mapM_header (List.cons_ne_nil _ _) h
  have hholds₁ := Headers.holds_of_set (by decide) (by decide) hkind
  have hholds₂ := Headers.holds_of_set (by decide) (isAscii_toString _) hlength
  have hholds₃ := Headers.holds_of_set (by decide) (isAscii_bodyDigest body) hdigest
  have hkeep₁ := (hholds₁.set (by decide) hlength (by decide)).set (by decide) hdigest (by decide)
  have hkeep₂ := hholds₂.set (by decide) hdigest (by decide)
  refine ⟨⟨_, rfl⟩, ?_, hkeep₁, hkeep₂, hholds₃, fun name value hname hholds => ?_⟩
  · simp only [List.map_cons, List.map_nil, hkeep₁.get?, hkeep₂.get?, hholds₃.get?,
      Option.getD_some]
  · have hother : ∀ described ∈ describingNames, ∀ name ∈ ["host", "date"],
        Headers.fieldKey described ≠ Headers.fieldKey name := by decide
    have hkept₁ := hholds.set (by decide) hkind (hother "content-type" (by decide) name hname)
    have hkept₂ := hkept₁.set (by decide) hlength
      (hother "content-length" (by decide) name hname)
    have hkept₃ := hkept₂.set (by decide) hdigest (hother "digest" (by decide) name hname)
    exact hkept₃

/-- The fields that describe a body are those that a verifier reads. -/
theorem describe_spec (h : (describe body).run r = .ok lines t) :
    (∃ headers, t = { r with headers }) ∧ lines = describingNames.map (lineOf t) ∧
      (∀ name ∈ describingNames, ∃ value, t.headers.Holds name value) ∧
      t.headers.Holds "content-length" (toString body.length) ∧
      t.headers.Holds "digest" (bodyDigest body) ∧
      ∀ name value, name ∈ ["host", "date"] → r.headers.Holds name value →
        t.headers.Holds name value := by
  obtain ⟨ht, rfl, hkind, hlength, hdigest, hkeep⟩ := describe_eq_ok h
  refine ⟨ht, ?_, fun name hname => ?_, hlength, hdigest, hkeep⟩
  · show _ = [lineOf t "content-type", lineOf t "content-length", lineOf t "digest"]
    rw [lineOf_of_holds (by decide) hkind, lineOf_of_holds (by decide) hlength,
      lineOf_of_holds (by decide) hdigest]
  · simp only [describingNames, List.mem_cons, List.not_mem_nil, or_false] at hname
    rcases hname with rfl | rfl | rfl
    · exact ⟨_, hkind⟩
    · exact ⟨_, hlength⟩
    · exact ⟨_, hdigest⟩

/-- Preparing a request sets host and date, reads the body, and describes it if there is one. -/
theorem prepare_eq_ok {given : Option String}
    (h : (prepare now given).run r = .ok (lines, names) t) :
    ∃ date first second body, dateText now given = .ok date ∧ IsAscii r.url.netloc ∧
      (r.read .blocking).1 = .ok body ∧
      r.headers.set "host" r.url.netloc = .ok first ∧ first.set "date" date = .ok second ∧
      ∃ more, lines = [line targetName (Text.lower r.method ++ " " ++ r.url.target),
          line "host" r.url.netloc, line "date" date] ++ more ∧
        (body = [] ∧ names = bodylessNames ∧ more = [] ∧
            t = { r with headers := second, body := .held body } ∨
          body ≠ [] ∧ names = bodyNames ∧
            (describe body).run { r with headers := second, body := .held body } = .ok more t) := by
  rw [prepare, Edit.get_bind] at h
  obtain ⟨host, hhost, h⟩ := Edit.ofExcept_bind_eq_ok.mp h
  obtain ⟨date, hdate, h⟩ := Edit.ofExcept_bind_eq_ok.mp h
  obtain ⟨first, hfirst, h⟩ := Edit.setHeader_bind_eq_ok.mp h
  obtain ⟨second, hsecond, h⟩ := Edit.setHeader_bind_eq_ok.mp h
  obtain ⟨body, s, hs, h⟩ := Edit.bind_eq_ok.mp h
  obtain ⟨rfl, hascii⟩ := hostText_eq_ok (mapError_eq_ok.mp hhost)
  obtain ⟨hread, rfl⟩ := Edit.body_eq_ok hs
  refine ⟨date, first, second, body, hdate, hascii, hread, hfirst, hsecond, ?_⟩
  cases body with
  | nil =>
    obtain ⟨hlines, rfl⟩ := Edit.pure_eq_ok.mp h
    obtain ⟨rfl, rfl⟩ := Prod.mk.inj hlines
    exact ⟨[], rfl, Or.inl ⟨rfl, rfl, rfl, rfl⟩⟩
  | cons b rest =>
    obtain ⟨more, u, hu, h⟩ := Edit.bind_eq_ok.mp h
    obtain ⟨hlines, rfl⟩ := Edit.pure_eq_ok.mp h
    obtain ⟨rfl, rfl⟩ := Prod.mk.inj hlines
    exact ⟨more, rfl, Or.inr ⟨by simp, rfl, hu⟩⟩

/-- Preparing a request leaves it with the fields to be signed. -/
theorem prepare_spec (hdate : IsAscii date)
    (h : (prepare now (some date)).run r = .ok (lines, names) t) :
    ∃ body, Prepared t body lines names := by
  obtain ⟨text, first, second, body, htext, hascii, -, hfirst, hsecond, more, rfl, hends⟩ :=
    prepare_eq_ok h
  obtain rfl : date = text := Except.ok.inj htext
  have hhost := (Headers.holds_of_set (by decide) hascii hfirst).set (by decide) hsecond (by decide)
  have hdate := Headers.holds_of_set (by decide) hdate hsecond
  refine ⟨body, ?_⟩
  rcases hends with ⟨rfl, rfl, rfl, rfl⟩ | ⟨hbody, rfl, hdescribe⟩
  · exact {
      held := rfl
      names_eq := rfl
      holds := holds_bodylessNames hhost hdate
      lines_eq := (map_lineOf_bodylessNames
        { r with headers := second, body := .held [] } hhost hdate).symm
      length := fun hbody => absurd rfl hbody
      digest := fun hbody => absurd rfl hbody }
  · obtain ⟨⟨headers, rfl⟩, rfl, hdescribing, hlength, hdigest, hkeep⟩ := describe_spec hdescribe
    have hhost := hkeep "host" _ (by decide) hhost
    have hdate := hkeep "date" _ (by decide) hdate
    refine {
      held := rfl
      names_eq := (if_neg hbody).symm
      holds := fun name hname htarget => ?_
      lines_eq := ?_
      length := fun _ => hlength
      digest := fun _ => hdigest }
    · rcases List.mem_append.mp hname with hname | hname
      · exact holds_bodylessNames hhost hdate name hname htarget
      · exact hdescribing name hname
    · rw [bodyNames, List.map_append, map_lineOf_bodylessNames _ hhost hdate]

/-! ## The signature -/

theorem Prepared.mem_bodyNames (hr : Prepared r body lines names) {name : String}
    (hname : name ∈ names) : name ∈ bodyNames := by
  rw [hr.names_eq] at hname
  split at hname
  · exact List.mem_append_left _ hname
  · exact hname

/-- Adding the signature leaves the fields that are signed. -/
theorem Prepared.setSignature (hr : Prepared r body lines names) {value : String}
    {headers : Headers} (hset : r.headers.set "Authorization" value = .ok headers) :
    Prepared { r with headers } body lines names := by
  have hother : ∀ name ∈ bodyNames,
      Headers.fieldKey "Authorization" ≠ Headers.fieldKey name := by decide
  refine {
    held := hr.held
    names_eq := hr.names_eq
    holds := fun name hname htarget => ?_
    lines_eq := hr.lines_eq.trans (List.map_congr_left fun name hname => ?_)
    length := fun hbody => (hr.length hbody).set (by decide) hset (by decide)
    digest := fun hbody => (hr.digest hbody).set (by decide) hset (by decide) }
  · obtain ⟨value, hvalue⟩ := hr.holds name hname htarget
    exact ⟨value, hvalue.set (by decide) hset (hother name (hr.mem_bodyNames hname))⟩
  · by_cases htarget : name = targetName
    · rw [lineOf, lineOf, if_pos htarget, if_pos htarget]
    · obtain ⟨value, hvalue⟩ := hr.holds name hname htarget
      have hkept := hvalue.set (by decide) hset (hother name (hr.mem_bodyNames hname))
      rw [lineOf_of_holds htarget hvalue, lineOf_of_holds (r := { r with headers }) htarget hkept]

/-- The list of the signed names is read back. -/
theorem Prepared.splitOn_listed (hr : Prepared r body lines names) :
    IsAscii (listed names) ∧ '"' ∉ (listed names).toList ∧
      (Host.splitOn ' ' (listed names).toList).map String.ofList = names := by
  rw [hr.names_eq]
  split
  · decide
  · decide

theorem Prepared.names_iff (hr : Prepared r body lines names) :
    (names = bodyNames ↔ body ≠ []) ∧ (names = bodylessNames ↔ body = []) := by
  rw [hr.names_eq]
  by_cases hbody : body = []
  · rw [if_pos hbody]
    exact ⟨iff_of_false (by decide) (not_not_intro hbody), iff_of_true rfl hbody⟩
  · rw [if_neg hbody]
    exact ⟨iff_of_true rfl hbody, iff_of_false (by decide) hbody⟩

theorem isAscii_fieldValue {signature : String} (hkey : IsAscii keyId)
    (hsignature : IsAscii signature) (hnames : IsAscii (listed names)) :
    IsAscii (fieldValue keyId signature names) := by
  unfold fieldValue
  refine IsAscii.append (IsAscii.append (IsAscii.append (IsAscii.append (IsAscii.append
    (IsAscii.append ?_ hkey) ?_) hsignature) ?_) hnames) ?_
  · decide
  · decide
  · decide
  · decide

/-- A verifier that looks at a signed request only finds what its signer signed. There is a single
authorization field, which states the name of the key; the keyed digest of the lines that the
verifier makes for the names stated is the signature; each field named has a single row; and the
names depend on whether there is a body, whose length and digest are given then. -/
theorem sign_verified (hascii : IsAscii keyId) (hkey : '"' ∉ keyId.toList) (hdate : IsAscii date)
    (h : (sign now keyId secret (some date)).run r = .ok () t) :
    ∃ stated body, stated? t = some stated ∧ t.read .blocking = (.ok body, t) ∧
      stated.keyId = keyId ∧ stated.algorithm = "hmac-sha512" ∧
      stated.signature = Text.Base64.encode (Hmac.digest (Text.Utf8.encode secret.toList)
        (Text.Utf8.encode ("\n".intercalate (stated.names.map (lineOf t))).toList)) ∧
      (∀ name ∈ stated.names, name ≠ "(request-target)" →
        ∃ row, t.headers.rows.filter (fun r => r.key = Headers.fieldKey name) = [row]) ∧
      (stated.names = ["(request-target)", "host", "date", "content-type", "content-length",
        "digest"] ↔ body ≠ []) ∧
      (stated.names = ["(request-target)", "host", "date"] ↔ body = []) ∧
      (body ≠ [] → t.headers.get? "content-length" = some (toString body.length) ∧
        t.headers.get? "digest" =
          some ("SHA-512=" ++ Text.Base64.encode (Sha512.digest body))) := by
  obtain ⟨⟨lines, names⟩, s, hs, h⟩ := Edit.bind_eq_ok.mp h
  obtain ⟨headers, hset, rfl⟩ := Edit.setHeader_eq_ok.mp h
  obtain ⟨body, hprepared⟩ := prepare_spec hdate hs
  have hsigned := hprepared.setSignature hset
  obtain ⟨hlisted, hmarks, hsplit⟩ := hsigned.splitOn_listed
  have hsignature : IsAscii (compute secret lines) := Text.Base64.isAscii_encode _
  have hvalue := isAscii_fieldValue hascii hsignature hlisted
  have hholds := Headers.holds_of_set (by decide) hvalue hset
  have hread : stated? { s with headers } = some {
      keyId, algorithm := "hmac-sha512", signature := compute secret lines, names } := by
    have hunmarked : '"' ∉ (compute secret lines).toList := Text.Base64.mark_not_mem_encode _
    rw [stated?, hholds.valuesOf]
    show Statement.read? _ = _
    rw [Statement.read_fieldValue hkey hunmarked hmarks, hsplit]
  refine ⟨_, body, hread, ?_, rfl, rfl, ?_, fun name hname htarget => ?_, hsigned.names_iff.1,
    hsigned.names_iff.2, fun hbody => ⟨(hsigned.length hbody).get?, (hsigned.digest hbody).get?⟩⟩
  · exact Request.read_of_held hsigned.held
  · rw [← hsigned.lines_eq]
    rfl
  · obtain ⟨value, -, row, hrow, -⟩ := hsigned.holds name hname htarget
    exact ⟨row, hrow⟩

/-- A request that has had two dates, and whose body is an empty stream. -/
theorem sign_verified_of_get :
    let url : Url := {
      scheme := "https", userinfo := "", host := "engine.example", port := some 8443
      path := "/api/vlan", query := some "page=1", fragment := none }
    let r : Request := {
      method := "GET", url, body := .stream .blocking [[], []] none
      headers := { rows := [Headers.row "Date" "today", Headers.row "date" "tomorrow"] } }
    ∃ t stated, (sign 0 "key" "secret" (some "Thu, 01 Jan 1970 00:00:00 GMT")).run r = .ok () t ∧
      stated? t = some stated ∧ stated.keyId = "key" ∧
      stated.names = ["(request-target)", "host", "date"] ∧
      ∃ row, t.headers.rows.filter (fun r => r.key = Headers.fieldKey "date") = [row] := by
  intro url r
  obtain ⟨t, hrun, hbytes⟩ : ∃ t, (sign 0 "key" "secret"
      (some "Thu, 01 Jan 1970 00:00:00 GMT")).run r = .ok () t ∧ (t.read .blocking).1 = .ok [] := by
    unfold r url
    exact ⟨_, rfl, rfl⟩
  obtain ⟨stated, body, hstated, hread, hkey, -, -, hrows, -, hnames, -⟩ :=
    sign_verified (by decide) (by decide) (by decide) hrun
  have hbody : body = [] := by
    rw [hread] at hbytes
    cases hbytes
    rfl
  have hdate : "date" ∈ stated.names := by rw [hnames.mpr hbody]; decide
  exact ⟨t, stated, hrun, hstated, hkey, hnames.mpr hbody, hrows "date" hdate (by decide)⟩

end ApiClient.Signature
