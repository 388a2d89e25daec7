import ApiClient.Proofs.Client.Stages

/-!
# The credential that is sent

A request that reaches the transport has a single authorization row. It holds the credential of the
client, whatever rows the request came with, unless a user name or a password stands in the address:
these take the place of the credential.
-/

namespace ApiClient

/-- The value of the authorization field that a credential gives to a request. -/
def Credential.fieldValue (now : Int) : Credential → Edit String
  | bearer token => pure ("Token " ++ token)
  | signature keyId secret => do
    let (lines, names) ← Signature.prepare now none
    return Signature.fieldValue keyId (Signature.compute secret lines) names

/-- The only authorization row of a request is `value`. -/
def Request.AuthorizedBy (q : Request) (value : List UInt8) : Prop :=
  q.headers.rows.filter (fun r => r.key = Headers.fieldKey "Authorization") =
    [{ name := Headers.asciiBytes "Authorization", value }]

theorem Authorization.attach_credential (now : Int) (k : Credential) :
    Authorization.attach now (.credential k) =
      k.fieldValue now >>= Edit.setHeader "Authorization" := by
  cases k with
  | bearer token => rfl
  | signature keyId secret =>
    unfold Credential.fieldValue
    rw [bind_assoc]
    rfl

theorem Credential.head?_fieldValue {now : Int} {k : Credential} {r u : Request} {value : String}
    (h : (k.fieldValue now).run r = .ok value u) :
    value.toList.head? = some 'T' ∨ value.toList.head? = some 'S' := by
  cases k with
  | bearer token =>
    cases h
    left
    rw [String.toList_append]
    rfl
  | signature keyId secret =>
    obtain ⟨⟨lines, names⟩, u, -, h⟩ := Edit.bind_eq_ok.mp h
    cases h
    right
    unfold Signature.fieldValue
    simp only [String.toList_append]
    rfl

namespace Client

variable {c : Client} {k : Credential} {transport : Transport} {r t q : Request} {s : Traffic}

/-- The authorization row of a signed request is the value that its credential gives, written as the
header fields were then. -/
theorem authorizedBy_of_sign (hk : c.authorization = .credential k)
    (h : c.sign.run r = .ok () t) :
    ∃ content value u bytes, (r.read .async).1 = .ok content ∧
      (k.fieldValue c.now).run { r with body := .held content } = .ok value u ∧
        u.headers.writingCharset.encode value.toList = .ok bytes ∧ t.AuthorizedBy bytes ∧
          t.headers.settled = u.headers.settled := by
  obtain ⟨content, v, hattach, hagent, hread⟩ := sign_eq_ok h
  rw [hk, Authorization.attach_credential] at hattach
  obtain ⟨value, u, hvalue, hset⟩ := Edit.bind_eq_ok.mp hattach
  obtain ⟨first, hfirst, rfl⟩ := Edit.setHeader_eq_ok.mp hset
  obtain ⟨second, hsecond, rfl⟩ := Edit.setHeader_eq_ok.mp hagent
  obtain ⟨bytes, -, hbytes, -, hsettled, -, hsingle⟩ :=
    Headers.set_set (by decide) (by decide) (by decide) hfirst hsecond
  exact ⟨content, value, u, bytes, hread, hvalue, hbytes, hsingle, hsettled⟩

theorem authorizedBy_outgoing {bytes : List UInt8} (h : t.AuthorizedBy bytes) :
    (c.outgoing t).AuthorizedBy
      (if t.url.credentials.1 = [] ∧ t.url.credentials.2 = [] then bytes
        else Headers.asciiBytes
          (basicAuthorization t.url.credentials.1 t.url.credentials.2)) := by
  obtain ⟨headers, hrows, htraced⟩ := t.traced_eq c.levels c.config.logger
  rw [outgoing, htraced, withAddressCredentials]
  by_cases hnone : t.url.credentials.1 = [] ∧ t.url.credentials.2 = []
  · rw [if_pos hnone, if_pos hnone]
    show headers.rows.filter _ = _
    rw [hrows]
    exact h
  · rw [if_neg hnone, if_neg hnone]
    exact putRow_filter_self (Headers.row "Authorization"
      (basicAuthorization t.url.credentials.1 t.url.credentials.2)) _

theorem head?_basicAuthorization (name password : List Char) :
    (Headers.asciiBytes (basicAuthorization name password)).head? = some 0x42 := by
  unfold Headers.asciiBytes basicAuthorization
  rw [String.toList_append]
  rfl

theorem bytes_ne_basicAuthorization {now : Int} {u : Request} {value : String} {set : Charset}
    {bytes : List UInt8} (hvalue : (k.fieldValue now).run r = .ok value u)
    (hbytes : set.encode value.toList = .ok bytes) (name password : List Char) :
    bytes ≠ Headers.asciiBytes (basicAuthorization name password) := by
  intro heq
  have hbasic : bytes.head? = some 0x42 := by rw [heq, head?_basicAuthorization]
  rcases Credential.head?_fieldValue hvalue with hfirst | hfirst
  · rw [Charset.head?_encode (by decide) hfirst hbytes] at hbasic
    exact absurd hbasic (by decide)
  · rw [Charset.head?_encode (by decide) hfirst hbytes] at hbasic
    exact absurd hbasic (by decide)

section

variable [Platform]

theorem signed_of_sent (h : (Exchange.after (c.perform transport r) s).sent = s.sent ++ [q]) :
    ∃ t, c.sign.run r = .ok () t ∧ q = c.outgoing t := by
  have hunsent : s.sent ≠ s.sent ++ [q] := by simp
  obtain ⟨log, hafter⟩ := after_perform c transport r s
  rw [hafter] at h
  cases hsigned : c.signed r with
  | error f =>
    rw [hsigned] at h
    exact absurd h hunsent
  | ok t =>
    simp only [hsigned] at h
    split at h
    · exact absurd h hunsent
    · have hsent : (if (c.dispatch transport s (c.outgoing t)).passed then s.sent ++ [c.outgoing t]
          else s.sent) = s.sent ++ [q] := h
      split at hsent
      · have hq : [c.outgoing t] = [q] := List.append_cancel_left hsent
        exact ⟨t, signed_eq_ok.mp hsigned, (List.singleton_inj.mp hq).symm⟩
      · exact absurd hsent hunsent

/-- A request that reaches the transport has a single authorization row. It is the one that the
credential gives to the request, unless a user name or a password stands in the address: then it is
made of these. -/
theorem sent_authorizedBy_iff
    (hsent : (Exchange.after ((c.withCredential k).perform transport r) s).sent = s.sent ++ [q]) :
    ∃ content value u bytes, (r.read .async).1 = .ok content ∧
      (k.fieldValue c.now).run { r with body := .held content } = .ok value u ∧
      u.headers.writingCharset.encode value.toList = .ok bytes ∧
      (q.AuthorizedBy bytes ↔ q.url.credentials.1 = [] ∧ q.url.credentials.2 = []) ∧
      (¬ (q.url.credentials.1 = [] ∧ q.url.credentials.2 = []) → q.AuthorizedBy
        (Headers.asciiBytes (basicAuthorization q.url.credentials.1 q.url.credentials.2))) := by
  obtain ⟨t, hsign, rfl⟩ := signed_of_sent hsent
  obtain ⟨content, value, u, bytes, hread, hvalue, hbytes, ht, -⟩ :=
    authorizedBy_of_sign (k := k) rfl hsign
  have hq := authorizedBy_outgoing (c := c.withCredential k) ht
  rw [← ((c.withCredential k).outgoing_eq t).2] at hq
  obtain ⟨q, hq'⟩ : ∃ q, q = (c.withCredential k).outgoing t := ⟨_, rfl⟩
  rw [← hq'] at hq ⊢
  refine ⟨content, value, u, bytes, hread, hvalue, hbytes, ⟨fun h => ?_, fun h => ?_⟩, fun h => ?_⟩
  · by_contra hsome
    -- the row would be the credential and be made of a user name and a password
    rw [if_neg hsome] at hq
    have hrow := List.singleton_inj.mp (h.symm.trans hq)
    exact bytes_ne_basicAuthorization hvalue hbytes _ _ (congrArg HeaderRow.value hrow)
  · rwa [if_pos h] at hq
  · rwa [if_neg h] at hq

end

section Plain

attribute [local instance] Platform.plain

/-- A token is sent in place of the authorization rows that a request came with. With a user name
and a password in the address these are sent, and the token is not. -/
theorem sent_authorizedBy_of_address :
    let c : Client := {
      levels := [], now := 0
      config := {
        baseUrl := "https://engine.test", credential := none, transport := .network
        userAgent := "agent", logger := "app", reportsFailures := false, measures := false
        version := "" } }
    let r : String → Request := fun userinfo => {
      method := "GET", body := .held []
      headers := { rows := [Headers.row "authorization" "x", Headers.row "AUTHORIZATION" "y"] }
      url := {
        scheme := "https", userinfo, host := "engine.test", port := none, path := "/x"
        query := none, fragment := none } }
    let sent : String → List Request := fun userinfo =>
      (Exchange.after ((c.withCredential (.bearer "T")).perform
        (fun _ _ => .ok { status := 200, headers := { rows := [] }, body := .held [] })
          (r userinfo)) {}).sent
    let passed : String → String → Request := fun userinfo value => { r userinfo with
      headers := {
        rows := [Headers.row "Authorization" value, Headers.row "User-Agent" "agent"] } }
    sent "" = [] ++ [passed "" "Token T"] ∧
      (passed "" "Token T").AuthorizedBy (Headers.asciiBytes "Token T") ∧
      sent "u:p" = [] ++ [passed "u:p" "Basic dTpw"] ∧
      ¬ (passed "u:p" "Basic dTpw").AuthorizedBy (Headers.asciiBytes "Token T") := by
  intro c r sent passed
  have htoken : sent "" = [] ++ [passed "" "Token T"] := by
    unfold sent passed r c
    decide +kernel
  have hbasic : sent "u:p" = [] ++ [passed "u:p" "Basic dTpw"] := by
    unfold sent passed r c
    decide +kernel
  refine ⟨htoken, ?_, hbasic, ?_⟩
  · obtain ⟨content, value, u, bytes, hread, hvalue, hbytes, hiff, -⟩ :=
      sent_authorizedBy_iff htoken
    cases hread
    cases hvalue
    cases hbytes
    refine hiff.mpr ?_
    unfold passed r
    decide +kernel
  · obtain ⟨content, value, u, bytes, hread, hvalue, hbytes, hiff, -⟩ :=
      sent_authorizedBy_iff hbasic
    cases hread
    cases hvalue
    cases hbytes
    intro h
    have hname : (passed "u:p" "Basic dTpw").url.credentials.1 = ['u'] := by
      unfold passed r
      decide +kernel
    rw [hname] at hiff
    exact List.cons_ne_nil _ _ (hiff.mp h).1

end Plain

end Client

end ApiClient
