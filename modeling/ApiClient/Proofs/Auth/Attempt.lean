import ApiClient.Proofs.Auth.Frame

/-!
# Attempts to sign

Signing sets header fields one after another, between steps that may fail: the host may have no
header text, the time no date, the body may not be there to be read in step, and a name or a date
may not fit the character set. An attempt that fails has set some of the fields that describe the
request, and never the authorization field; none touches any other field (`Signature.sign_frame`).
-/

namespace ApiClient

namespace Edit

/-- A header field that is not set leaves the request as it was. -/
theorem eq_of_setHeader_error {r t : Request} {name value : String} {f : Fault}
    (h : (setHeader name value).run r = .error f t) : t = r := by
  cases hset : r.headers.set name value with
  | ok headers =>
    rw [setHeader_of_ok hset] at h
    cases h
  | error e =>
    rw [setHeader_of_error hset] at h
    cases h
    rfl

end Edit

namespace Signature

variable {r t : Request} {now : Int} {keyId secret : String} {date : Option String} {f : Fault}

/-- The names of the header fields that an attempt to sign may set. -/
def fieldNames : List String := ["host", "date"] ++ describingNames ++ ["Authorization"]

theorem preparedNames_subset (body : List UInt8) :
    preparedNames body ⊆ ["host", "date"] ++ describingNames := by
  unfold preparedNames
  split
  · exact List.subset_append_left _ _
  · exact List.Subset.refl _

/-- An attempt that fails keeps the authorization field too. -/
theorem kept_of_sign_error (h : (sign now keyId secret date).run r = .error f t) :
    t.KeptBesides (preparedNames ((r.read .blocking).1.toOption.getD [])) r := by
  have hkept : Request.KeptBesides (preparedNames ((r.read .blocking).1.toOption.getD []))
    ((prepare now date).after r) r := keeps_prepare now date r
  rw [sign, EStateM.run_bind] at h
  unfold Edit.after at hkept
  cases hprepare : (prepare now date).run r with
  | error g u =>
    rw [hprepare] at h hkept
    cases h
    exact hkept
  | ok signed u =>
    rw [hprepare] at h hkept
    -- the authorization field is set last, so that it is all that may be missing now
    obtain rfl := Edit.eq_of_setHeader_error h
    exact hkept

/-- An attempt that succeeds ends with the authorization field, which then has a single row. -/
theorem authorization_of_sign (h : (sign now keyId secret date).run r = .ok () t) :
    ∃ lines names u value, (prepare now date).run r = .ok (lines, names) u ∧
      u.headers.writingCharset.encode
        (fieldValue keyId (compute secret lines) names).toList = .ok value ∧
      t.headers.rows.filter (fun row => row.key = Headers.fieldKey "Authorization") =
        [{ name := Headers.asciiBytes "Authorization", value }] := by
  obtain ⟨⟨lines, names⟩, u, hprepare, hset⟩ := Edit.bind_eq_ok.mp h
  obtain ⟨headers, hheaders, rfl⟩ := Edit.setHeader_eq_ok.mp hset
  obtain ⟨value, hvalue, -, rfl⟩ := Headers.eq_of_set (by decide) hheaders
  exact ⟨lines, names, u, value, hprepare, hvalue,
    putRow_filter_self { name := Headers.asciiBytes "Authorization", value } u.headers.rows⟩

/-- An attempt to sign, whether it succeeds or fails, leaves the method, the address and the rows of
all header fields but those of a signature, in order. If it fails, the authorization rows are those
from before, and if it succeeds, there is one, with the signature. Without a body the fields that
describe one stay as well. -/
theorem sign_frame (now : Int) (keyId secret : String) (date : Option String) (r : Request) :
    let attempt := sign now keyId secret date
    let t := attempt.after r
    t.method = r.method ∧ t.url = r.url ∧
    t.headers.besides fieldNames = r.headers.besides fieldNames ∧
    (∀ f u, attempt.run r = .error f u →
      u.headers.rows.filter (fun row => row.key = Headers.fieldKey "Authorization") =
        r.headers.rows.filter fun row => row.key = Headers.fieldKey "Authorization") ∧
    (∀ u, attempt.run r = .ok () u → ∃ lines names v value,
      (prepare now date).run r = .ok (lines, names) v ∧
      v.headers.writingCharset.encode
        (fieldValue keyId (compute secret lines) names).toList = .ok value ∧
      u.headers.rows.filter (fun row => row.key = Headers.fieldKey "Authorization") =
        [{ name := Headers.asciiBytes "Authorization", value }]) ∧
    ((r.read .blocking).1 = .ok [] →
      t.headers.besides ["host", "date", "Authorization"] =
        r.headers.besides ["host", "date", "Authorization"]) := by
  intro attempt t
  have hkept : Request.KeptBesides
      ("Authorization" :: preparedNames ((r.read .blocking).1.toOption.getD [])) t r :=
    keeps_sign now keyId secret date r
  refine ⟨hkept.method, hkept.url, ?_, fun f u h => ?_, fun u h => ?_, fun hempty => ?_⟩
  · refine (hkept.mono (List.cons_subset.mpr ⟨by decide, ?_⟩)).rows
    exact List.Subset.trans (preparedNames_subset _) (List.subset_append_left _ _)
  · refine Headers.filter_eq_of_besides
      ((kept_of_sign_error h).mono (preparedNames_subset _)).rows ?_
    decide
  · exact authorization_of_sign h
  · rw [hempty] at hkept
    exact (hkept.mono (by decide)).rows

/-- The stream of the body fails once host and date are set. The request keeps the credential and
the kind of content that it had. -/
theorem sign_frame_of_broken_stream :
    let rows : List HeaderRow := [Headers.row "authorization" "Token T", Headers.row "x-name" "v",
      Headers.row "Host" "other.test", Headers.row "Content-Type" "text/plain"]
    let r : Request := {
      method := "PUT", headers := { rows }
      body := .stream .blocking [[0x31]] (some { kind := .os, text := "gone" })
      url := {
        scheme := "https", userinfo := "", host := "engine.test", port := none, path := "/x"
        query := none, fragment := none } }
    let attempt := sign 0 "key" "s3cret" (some "today")
    let t := attempt.after r
    attempt.run r = .error (.outside { kind := .os, text := "gone" }) t ∧
      t.headers.rows = [Headers.row "authorization" "Token T", Headers.row "x-name" "v",
        Headers.row "host" "engine.test", Headers.row "Content-Type" "text/plain",
        Headers.row "date" "today"] ∧
      t.headers.besides fieldNames = [Headers.row "x-name" "v"] ∧
      t.headers.rows.filter (fun row => row.key = Headers.fieldKey "Authorization") =
        [Headers.row "authorization" "Token T"] := by
  intro rows r attempt t
  have hrun : attempt.run r = .error (.outside { kind := .os, text := "gone" }) t := by
    have hfails : (match attempt.run r with
        | .error f _ => some f
        | .ok _ _ => none) = some (.outside { kind := .os, text := "gone" }) := by
      unfold attempt r
      decide +kernel
    unfold t Edit.after
    cases h : attempt.run r with
    | error f u =>
      rw [h] at hfails
      cases hfails
      rfl
    | ok a u =>
      rw [h] at hfails
      cases hfails
  obtain ⟨-, -, hothers, hstays, -⟩ := sign_frame 0 "key" "s3cret" (some "today") r
  exact ⟨hrun, by decide +kernel, hothers.trans (by decide), (hstays _ t hrun).trans (by decide)⟩

end Signature

end ApiClient
