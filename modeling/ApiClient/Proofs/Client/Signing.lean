import ApiClient.Proofs.Client.SignedBody

/-!
# Clients that can sign

A client whose credential and name are in ASCII can sign every request for a host in ASCII. The
names of all header fields are then in ASCII too if those that the request came with are, so what
the request is sent with has the site of its address.
-/

namespace ApiClient

/-! ## Rows with ASCII names -/

/-- The names of rows are in ASCII. -/
def AsciiNames (rows : List HeaderRow) : Prop :=
  ∀ row ∈ rows, AsciiBytes row.key

namespace AsciiNames

variable {row : HeaderRow} {news rows : List HeaderRow}

theorem of_keys (h : ∀ key ∈ rows.map HeaderRow.key, AsciiBytes key) : AsciiNames rows :=
  fun _ hrow => h _ (List.mem_map_of_mem hrow)

theorem putRow (hrow : AsciiBytes row.key) (h : AsciiNames rows) :
    AsciiNames (putRow row rows) := by
  intro r hr
  rcases mem_putRow hr with rfl | hother
  · exact hrow
  · exact h r (List.mem_filter.mp hother).1

theorem putRows (hnews : AsciiNames news) (h : AsciiNames rows) :
    AsciiNames (putRows news rows) := by
  intro r hr
  rcases mem_putRows hr with hnew | ⟨hold, -⟩
  · exact hnews r hnew
  · exact h r hold

end AsciiNames

/-- Of a site, only the host may come from the header fields, and the place does not. -/
theorem Site.place?_ofUrl (hostField : List Char) (u : Url) :
    (Site.ofUrl hostField u).map Site.place? = (Site.ofUrl [] u).map Site.place? := by
  unfold ofUrl
  dsimp only [bind, Except.bind, pure, Except.pure]
  cases Url.cutAt ':' ((Url.cutAtLast? '#' (bareText u)).getD (bareText u, [])).1 with
  | mk kind rest =>
    cases rest with
    | none => rfl
    | some rest =>
      dsimp only
      split
      · rfl
      · split
        · rfl
        -- the two sites differ in the host only
        · dsimp only [Except.map]

/-- The site of a request whose header fields have ASCII names is that of its address. -/
theorem Request.site_of_asciiNames {q : Request} (h : AsciiNames q.headers.rows) :
    q.site = Site.ofUrl ((q.headers.get? "host").getD "").toList q.url := by
  have hlisted : (q.headers.rows.forM fun row => q.headers.checkListed row.key) = .ok () :=
    Headers.forM_eq_ok fun row hrow => Headers.checkListed_of_ascii hrow (h row hrow)
  rw [site, hlisted]
  exact pure_bind () _

/-- The rows that authorize a request have ASCII names. -/
theorem Credential.Puts.asciiNames {now : Int} {given : Option String} {r : Request}
    {k : Credential} {news : List HeaderRow} (h : k.Puts now given r news) : AsciiNames news := by
  refine AsciiNames.of_keys ?_
  cases h with
  | bearer token =>
    show ∀ key ∈ ["Authorization"].map Headers.fieldKey, AsciiBytes key
    decide
  | @signature keyId secret date body hnetloc hdate hread =>
    rw [List.map_append, Signature.keys_preparedRows, List.map_singleton,
      Signature.key_signatureRow, Signature.preparedNames]
    split
    · decide
    · decide

/-! ## Clients that can sign -/

namespace Client

/-- What a client gives to its requests is in ASCII: its name and its credential. With a key, the
second that signatures are dated with has a date. -/
structure CanSign (c : Client) : Prop where
  /-- The credential. -/
  credential : ∀ k, c.config.credential = some k → k.IsAscii
  /-- The date. -/
  date : ∀ keyId secret, c.config.credential = some (.signature keyId secret) →
    ∃ date, HttpDate.ofSeconds c.now = .ok date
  /-- The name. -/
  userAgent : IsAscii c.config.userAgent

variable {c : Client} {r t : Request} {body : List UInt8}

/-- Such a client authorizes a request with rows that have ASCII names. -/
theorem CanSign.attach (h : c.CanSign) (hbody : r.body = .held body)
    (hnetloc : IsAscii r.url.netloc) : ∃ news t, AsciiNames news ∧
      (c.authorization.attach c.now).run r = .ok () t ∧
      t.headers.rows = putRows news r.headers.rows := by
  have hread : (r.read .blocking).1 = .ok body := by rw [Request.read_of_held hbody]
  cases hk : c.config.credential with
  | none =>
    rw [authorization, hk]
    exact ⟨[], r, List.forall_mem_nil _, rfl, rfl⟩
  | some k =>
    have hputs : ∃ news, k.Puts c.now none r news := by
      cases k with
      | bearer token => exact ⟨_, .bearer token⟩
      | signature keyId secret =>
        obtain ⟨date, hdate⟩ := h.date keyId secret hk
        have htext : Signature.dateText c.now none = .ok date := by
          rw [Signature.dateText, hdate]
          rfl
        exact ⟨_, .signature keyId secret hnetloc htext hread⟩
    obtain ⟨news, hputs⟩ := hputs
    obtain ⟨t, hrun, hrows⟩ := hputs.authorize (h.credential k hk) (by simp)
    refine ⟨news, t, hputs.asciiNames, ?_, hrows⟩
    rw [authorization, hk]
    exact (congrArg (fun x => x.run r) (Credential.attach_eq_authorize c.now k)).trans hrun

/-- Such a client signs every request for a host in ASCII whose body is held. -/
theorem CanSign.sign (h : c.CanSign) (hbody : r.body = .held body)
    (hnetloc : IsAscii r.url.netloc) (hnames : AsciiNames r.headers.rows) :
    ∃ t, c.sign.run r = .ok () t ∧ AsciiNames t.headers.rows := by
  obtain ⟨news, u, hnews, hattach, hrows⟩ := h.attach hbody hnetloc
  have hset := Headers.set_of_isAscii u.headers (show IsAscii "User-Agent" by decide) h.userAgent
  have hrun : c.sign.run r = (Edit.setHeader "User-Agent" c.config.userAgent).run u := by
    rw [sign_run c hbody, EStateM.run_bind, hattach]
  refine ⟨_, hrun.trans (Edit.setHeader_of_ok hset), ?_⟩
  have hkey : AsciiBytes (Headers.row "User-Agent" c.config.userAgent).key := by
    show AsciiBytes (Headers.fieldKey "User-Agent")
    decide
  refine AsciiNames.putRow hkey ?_
  rw [hrows]
  exact hnews.putRows hnames

/-- Neither logging nor the address gives a request a row whose name is not in ASCII. -/
theorem asciiNames_outgoing (h : AsciiNames t.headers.rows) :
    AsciiNames (c.outgoing t).headers.rows := by
  obtain ⟨headers, hrows, htraced⟩ := t.traced_eq c.levels c.config.logger
  have hnames : AsciiNames headers.rows := hrows ▸ h
  rw [outgoing, htraced, withAddressCredentials]
  split
  · exact hnames
  · have hkey : AsciiBytes (Headers.fieldKey "Authorization") := by decide
    exact AsciiNames.putRow hkey hnames

end Client

end ApiClient
