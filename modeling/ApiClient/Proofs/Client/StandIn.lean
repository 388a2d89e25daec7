import ApiClient.Proofs.Client.Echo
import ApiClient.Proofs.Client.Signing
import ApiClient.Proofs.Config.Build
import ApiClient.Proofs.Config.Place
import ApiClient.Proofs.Json.Reading
import ApiClient.StandIn

/-!
# Echoes to the stand-in

A client of the stand-in passes its echo, whatever its options are besides the server and the
transport, as long as its credential and its name are in ASCII: signing leaves the body that is
made of the number, and the stand-in answers with the text that it finds in there
(`StandIn.echo_passes`).
-/

namespace ApiClient.StandIn

open ClientOption (credentials)

variable {levels : Levels} {system : String} {opts : List ClientOption} {config : Config}
  {w w' : Surroundings}

/-- A configuration leads to the stand-in. -/
structure Leads (config : Config) : Prop where
  /-- The server is the stand-in. -/
  baseUrl : config.baseUrl = baseUrl
  /-- What carries the requests is the transport that leads to it. -/
  transport : config.transport = .supplied transportName

/-- What options make a configuration of leads to the stand-in if none names another server or
another transport. -/
theorem leads_of_build (hplace : ∀ o ∈ opts, o.field ≠ .baseUrl ∧ o.field ≠ .transport)
    (h : (Config.build levels system (options ++ opts)).run w = .ok config w') :
    Leads config := by
  have hoptions : (options ++ opts).foldlM (Config.Draft.apply levels) {} =
      opts.foldlM (Config.Draft.apply levels) (options.foldl Config.Draft.put {}) := by
    rw [List.foldlM_append]
    rfl
  rw [Config.build, hoptions] at h
  obtain ⟨d, t, hdraft, h⟩ := run_bind_eq_ok.mp h
  obtain ⟨hserver, htransport⟩ := Config.Draft.samePlace_of_foldlM hdraft hplace
  unfold Config.Draft.finish at h
  by_cases hnone : (d.credential.isNone && !d.credentialOptional) = true
  · rw [if_pos hnone] at h
    cases h
  · rw [if_neg hnone] at h
    cases h
    refine ⟨?_, htransport⟩
    show Config.dropSlashes d.baseUrl = baseUrl
    rw [hserver]
    decide

/-- Options that have nothing to do with the environment make a configuration of the stand-in
unless their credentials may not be given together. -/
theorem exists_build (hself : ∀ o ∈ opts, o.selfContained = true)
    (hcompatible : Compatible (credentials opts)) (levels : Levels) (system : String)
    (w : Surroundings) :
    ∃ config, (Config.build levels system (options ++ opts)).run w = .ok config w := by
  have hall : ∀ o ∈ options ++ opts, o.selfContained = true :=
    List.forall_mem_append.mpr ⟨by decide, hself⟩
  have hcredentials : credentials (options ++ opts) = credentials opts :=
    List.filterMap_append
  rcases Config.build_cases levels system hall with
    ⟨e, hfirst, -⟩ | ⟨-, ⟨hnone, -⟩ | ⟨-, config, -, hbuild⟩⟩
  · exact absurd (hcredentials ▸ hcompatible) (Config.FirstOffence.not_compatible hfirst)
  -- the stand-in does not require a credential
  · have hoptional : .credentialOptional ∈ options ++ opts := List.mem_append_left _ (by decide)
    exact absurd (.inr hoptional) hnone
  · exact ⟨config, by rw [hbuild]; rfl⟩

/-! ## The request and its answer -/

/-- The address of an echo to the stand-in. -/
def echoUrl : Url where
  scheme := "https"
  userinfo := ""
  host := "engine.test"
  port := none
  path := Echo.path
  query := none
  fragment := none

theorem resource_echoUrl : echoUrl.resource = Echo.path := by
  decide +kernel

/-- The address of an echo names a place. -/
theorem site_echoUrl (hostField : List Char) :
    ∃ site, Site.ofUrl hostField echoUrl = .ok site ∧ site.place? ≠ none := by
  have hplace : (Site.ofUrl hostField echoUrl).map Site.place? =
      .ok (some "engine.test".toList) := by
    rw [Site.place?_ofUrl]
    decide +kernel
  cases hsite : Site.ofUrl hostField echoUrl with
  | error f =>
    rw [hsite] at hplace
    cases hplace
  | ok site =>
    rw [hsite] at hplace
    have hsome : site.place? = some "engine.test".toList := Except.ok.inj hplace
    exact ⟨site, rfl, by rw [hsome]; exact nofun⟩

/-- The rows that describe a JSON body. -/
def jsonRows (bytes : List UInt8) : List HeaderRow :=
  [Headers.row "Content-Length" (toString bytes.length),
    Headers.row "Content-Type" "application/json"]

/-- The request of an echo to the stand-in, with the bytes that it sends. -/
def echoRequest (bytes : List UInt8) : Request where
  method := "PUT"
  url := echoUrl
  headers := { rows := Headers.row "Host" "engine.test" :: jsonRows bytes }
  body := .held bytes

theorem asciiNames_echoRequest (bytes : List UInt8) :
    AsciiNames (echoRequest bytes).headers.rows := by
  refine AsciiNames.of_keys ?_
  show ∀ key ∈ ["Host", "Content-Length", "Content-Type"].map Headers.fieldKey, AsciiBytes key
  decide

section

variable [Platform]

theorem parse_echoUrl : Url.parse (baseUrl ++ Echo.path) = .ok echoUrl := rfl

/-- The body that is made of what an echo of a text sends is read as that. -/
theorem encode_payload (text : String) : ∃ bytes,
    (Content.json (Echo.payload text)).encode = .ok (.held bytes, jsonRows bytes) ∧
    Json.readBytes bytes = .ok (Echo.payload text) := by
  have hexact : (Echo.payload text).Exact := ⟨List.nodup_singleton _, trivial, trivial⟩
  obtain ⟨t, hprint, hwritten⟩ := Json.exists_print_of_exact _ hexact
  have hbytes : (Echo.payload text).bytes? = some (Text.Utf8.encode t) := by
    rw [Json.bytes?, hprint]
    rfl
  refine ⟨Text.Utf8.encode t, ?_, ?_⟩
  · have hsome : Echo.payload text ≠ .null := by
      intro h
      cases h
    rw [Content.encode, hbytes]
    · rfl
    · exact hsome
  · have hread := Json.readBytes_of_written Json.blanks_nil Json.blanks_nil hwritten
      Platform.nesting_pos
    rwa [List.nil_append, List.append_nil] at hread

/-- An echo makes its request at the stand-in. -/
theorem request_eq {c : Client} (hserver : c.config.baseUrl = baseUrl) {text : String}
    {bytes : List UInt8}
    (hencode : (Content.json (Echo.payload text)).encode = .ok (.held bytes, jsonRows bytes)) :
    c.request "PUT" Echo.path none (.json (Echo.payload text)) = .ok (echoRequest bytes) := by
  have hmethod : Text.upper "PUT" = "PUT" := by decide
  have hhost : Request.hostRows echoUrl = .ok [Headers.row "Host" "engine.test"] := rfl
  have hheaders : Request.headersFor "PUT" echoUrl [] (jsonRows bytes) =
      .ok (echoRequest bytes).headers := by
    have hrows : describeBody [] (jsonRows bytes) = jsonRows bytes := rfl
    unfold Request.headersFor
    dsimp only
    rw [hrows, hhost]
    rfl
  rw [Client.request, hserver, Request.make, hmethod]
  dsimp only
  rw [parse_echoUrl, hencode]
  dsimp only [Except.mapError, bind, Except.bind]
  rw [hheaders]
  rfl

/-- A text is answered with as it is. -/
theorem make_string (text : String) : ∃ answer, Json.readBytes answer = .ok (.str text) ∧
    Response.make 200 [] (.json (.str text)) =
      .ok { status := 200, headers := .ofRows (jsonRows answer), body := .held answer } := by
  refine ⟨_, Json.readBytes_printString text, ?_⟩
  generalize hbytes : Text.Utf8.encode (Json.printString text) = answer
  have hencode : (Content.json (.str text)).encode = .ok (.held answer, jsonRows answer) := by
    rw [← hbytes]
    rfl
  have hrows : describeBody [] (jsonRows answer) = jsonRows answer := rfl
  have huncoded : (Headers.ofRows (jsonRows answer)).codings = [] := rfl
  unfold Response.make
  rw [hencode]
  dsimp only [bind, Except.bind]
  rw [hrows, huncoded, Body.decoded_nil]
  rfl

/-- The stand-in answers an echo with the text that was sent. -/
theorem exists_answer {q : Request} {bytes : List UInt8} {text : String} (hurl : q.url = echoUrl)
    (hbody : q.body = .held bytes) (hread : Json.readBytes bytes = .ok (Echo.payload text)) :
    ∃ p answer, echo q = .ok p ∧ p.status = 200 ∧ p.body = .held answer ∧
      Json.readBytes answer = .ok (.str text) := by
  have hcontent : q.content = .ok bytes := by rw [Request.content, hbody]
  have hpath : ¬ q.url.resource ≠ Echo.path := by
    rw [hurl, resource_echoUrl]
    exact not_not_intro rfl
  have hmake : echo q = Response.make 200 [] (.json (.str text)) := by
    rw [echo, if_neg hpath, hcontent]
    dsimp only [bind, Except.bind]
    rw [hread]
    rfl
  obtain ⟨answer, hanswer, hmade⟩ := make_string text
  exact ⟨_, answer, hmake.trans hmade, rfl, rfl, hanswer⟩

/-! ## The echo -/

/-- A client whose receiver of metrics does not fail is handed over the answer to its echo. -/
theorem handsOver_of_steady {c : Client} (hsteady : c.Steady) {q : Request} {p : Response}
    (hurl : q.url = echoUrl) (hnames : AsciiNames q.headers.rows) (hstatus : p.status = 200)
    (s : Traffic) : c.HandsOver s q p := by
  have hfinal : c.finalFailure? s q p = none := by
    unfold Client.finalFailure?
    cases hreceiver : c.receiver? with
    | none => rfl
    | some receiver => exact hsteady receiver hreceiver _
  have hstays : p.location? = none := by
    unfold Response.location?
    rw [hstatus]
    exact if_neg (by decide)
  obtain ⟨site, hsite, hplace⟩ := site_echoUrl ((q.headers.get? "host").getD "").toList
  refine Client.handsOver_of_stays hfinal hstays ⟨site, ?_, hplace⟩
  rw [Request.site_of_asciiNames hnames, hurl, hsite]

/-- An echo of a client whose server is the stand-in succeeds. -/
theorem echo_of_server {c : Client} {s : Traffic} (hserver : c.config.baseUrl = baseUrl)
    (hsign : c.CanSign) (hsteady : c.Steady) (hopen : ¬ s.closed = true) (value : Int) :
    Exchange.result (Echo.run c (fun _ r => echo r) value) s = .ok () ∧
      ∃ q bytes, (Exchange.after (Echo.run c (fun _ r => echo r) value) s).sent = s.sent ++ [q] ∧
        q.method = "PUT" ∧ q.url = echoUrl ∧ q.body = .held bytes ∧
        Json.readBytes bytes = .ok (Echo.payload (toString value)) := by
  obtain ⟨bytes, hencode, hbytes⟩ := encode_payload (toString value)
  have hrequest := request_eq hserver hencode
  have hnetloc : IsAscii echoUrl.netloc := by decide +kernel
  obtain ⟨t, hsigned, hnames⟩ :=
    hsign.sign (r := echoRequest bytes) rfl hnetloc (asciiNames_echoRequest bytes)
  obtain ⟨hmethod, hurl, content, hcontent, hbody⟩ := Client.sentFor_of_sign hsigned
  obtain rfl : bytes = content := Except.ok.inj hcontent
  have hsent : (Exchange.after (Echo.run c (fun _ r => echo r) value) s).sent =
      s.sent ++ [c.outgoing t] := by
    rw [Echo.sent_run_of_request hrequest]
    exact Client.sent_iff.mpr ⟨t, hsigned, hopen, (Client.dispatch_of_steady hsteady).2, rfl⟩
  refine ⟨?_, c.outgoing t, bytes, hsent, hmethod, hurl, hbody, hbytes⟩
  obtain ⟨p, answer, hanswer, hstatus, hheld, hread⟩ := exists_answer hurl hbody hbytes
  have hover := handsOver_of_steady hsteady hurl (Client.asciiNames_outgoing hnames) hstatus s
  have hpasses : Echo.Passes c p.status := by
    rw [hstatus]
    exact ⟨fun _ => rfl, by decide⟩
  have hreadable : p.read.1 = .ok answer := by rw [Response.read_of_held hheld]
  rcases Echo.outcome_cases hsent hanswer hreadable hover with
    ⟨hreports, hfailure, -⟩ | ⟨hfails, -⟩ | ⟨-, p', hbody', hstatus', houtcome⟩
  · exact absurd (hpasses.1 hreports) hfailure
  · exact absurd hpasses hfails
  · rcases Echo.check_cases hbody' hstatus' (toString value) with
      ⟨-, hcheck⟩ | ⟨v, hjson, hv, -⟩ | ⟨reason, hjson, -⟩ | ⟨cause, hjson, -⟩
    · exact houtcome.trans hcheck
    · exact absurd (Except.ok.inj (hjson.symm.trans hread)) hv
    · exact absurd (hjson.symm.trans hread) nofun
    · exact absurd (hjson.symm.trans hread) nofun

/-- Clients of the stand-in echo. Options make a configuration for it unless they look for a
credential in the environment or give credentials that may not be given together. And whatever
configuration they make, whether it traces, measures and reports failures or not: unless they name
another server or another transport, every client with it passes its echo of any number, if what it
gives to its requests is in ASCII and its receiver of metrics does not fail. It sends a single
request, a PUT for the path of the echo, and its body is an object with the text of the number. -/
theorem echo_passes (levels : Levels) (system : String) (w : Surroundings)
    {opts : List ClientOption}
    (hplace : ∀ o ∈ opts, o.field ≠ .baseUrl ∧ o.field ≠ .transport) :
    ((∀ o ∈ opts, o.selfContained = true) → Compatible (credentials opts) →
      ∃ config, (Config.build levels system (options ++ opts)).run w = .ok config w) ∧
    ∀ config w', (Config.build levels system (options ++ opts)).run w = .ok config w' →
      config.transport = .supplied transportName ∧
      ∀ c : Client, c.config = config → c.CanSign → c.Steady → ∀ s : Traffic, ¬ s.closed = true →
        ∀ value : Int,
          let call := Echo.run c (fun _ r => echo r) value
          Exchange.result call s = .ok () ∧
          ∃ q bytes, (Exchange.after call s).sent = s.sent ++ [q] ∧ q.method = "PUT" ∧
            q.url.text = baseUrl ++ Echo.path ∧ q.body = .held bytes ∧
            Json.readBytes bytes = .ok (.obj [("value", .str (toString value))]) := by
  refine ⟨fun hself hcompatible => exists_build hself hcompatible levels system w, ?_⟩
  intro config w' hbuild
  obtain ⟨hserver, htransport⟩ := leads_of_build hplace hbuild
  refine ⟨htransport, ?_⟩
  rintro c rfl hsign hsteady s hopen value call
  obtain ⟨hresult, q, bytes, hsent, hmethod, hurl, hbody, hbytes⟩ :=
    echo_of_server hserver hsign hsteady hopen value
  have htext : q.url.text = baseUrl ++ Echo.path := by
    rw [hurl]
    decide +kernel
  exact ⟨hresult, q, bytes, hsent, hmethod, htext, hbody, hbytes⟩

end

section Plain

attribute [local instance] Platform.plain

/-- A client with a key that traces and measures, and does not report failures. -/
theorem echo_passes_of_key :
    let opts : List ClientOption := [.key "key" "secret", .userAgent "agent", .logger "app",
      .receiver "counts", .reportsFailures false]
    let w : Surroundings := { env := [], log := [] }
    let config : Config := {
      baseUrl := "https://engine.test", credential := some (.signature "key" "secret")
      transport := .supplied "stand-in", userAgent := "agent", logger := "app"
      reportsFailures := false, receiver := some "counts", version := "0.1.0" }
    let c : Client := { config, levels := [("app.trace", traceLevel)], now := 0 }
    (Config.build [] "Linux" (options ++ opts)).run w = .ok config w ∧
      Exchange.result (Echo.run c (fun _ r => echo r) 7) {} = .ok () ∧
      ∃ q bytes, (Exchange.after (Echo.run c (fun _ r => echo r) 7) {}).sent = [q] ∧
        q.method = "PUT" ∧ q.url.text = "https://engine.test/api/v1/test/echo.json" ∧
        q.body = .held bytes ∧ Json.readBytes bytes = .ok (.obj [("value", .str "7")]) := by
  intro opts w config c
  have hplace : ∀ o ∈ opts, o.field ≠ .baseUrl ∧ o.field ≠ .transport := by decide
  have hcompatible : Compatible (credentials opts) :=
    Compatible.nil.concat ⟨by decide, by decide⟩ nofun
  have hsign : c.CanSign := by
    refine ⟨?_, fun _ _ _ => ⟨"Thu, 01 Jan 1970 00:00:00 GMT", by decide⟩, ?_⟩
    · rintro k ⟨⟩
      show IsAscii "key"
      decide
    · show IsAscii "agent"
      decide
  have hsteady : c.Steady := by
    rintro receiver ⟨⟩ events
    rfl
  obtain ⟨hbuilds, hechoes⟩ := echo_passes [] "Linux" w hplace
  obtain ⟨built, hbuild⟩ := hbuilds (by decide) hcompatible
  obtain rfl : config = built := by
    have hrun : (Config.build [] "Linux" (options ++ opts)).run w = .ok config w := rfl
    cases hrun.symm.trans hbuild
    rfl
  obtain ⟨-, hpasses⟩ := hechoes config w hbuild
  obtain ⟨hresult, q, bytes, hsent, hmethod, hurl, hbody, hbytes⟩ :=
    hpasses c rfl hsign hsteady {} nofun 7
  exact ⟨hbuild, hresult, q, bytes, hsent, hmethod, hurl, hbody, hbytes⟩

end Plain

end ApiClient.StandIn
