import ApiClient.Proofs.Auth.Signature
import ApiClient.Proofs.Text.Lines

/-!
# What a signed text says

The signed lines of a request, joined by line breaks, tell its parts: no other method, target, host,
date or body has the same text, as far as the digest tells bodies apart.
-/

namespace ApiClient.Signature

variable {r r' t t' : Request} {now now' : Int} {given given' : Option String}
  {lines lines' names names' : List String} {date date' : String} {body body' : List UInt8}

/-- The signed lines of a request with a date and a body. -/
def signedLines (r : Request) (date : String) (body : List UInt8) : List String :=
  [line targetName (Text.lower r.method ++ " " ++ r.url.target), line "host" r.url.netloc,
      line "date" date] ++
    if body = [] then []
    else [line "content-type" "application/json", line "content-length" (toString body.length),
      line "digest" (bodyDigest body)]

theorem prepare_lines (h : (prepare now given).run r = .ok (lines, names) t) :
    ∃ date body, dateText now given = .ok date ∧ (r.read .blocking).1 = .ok body ∧
      lines = signedLines r date body := by
  obtain ⟨date, first, second, body, hdate, -, hread, -, -, more, rfl, hends⟩ := prepare_eq_ok h
  refine ⟨date, body, hdate, hread, ?_⟩
  rw [signedLines]
  rcases hends with ⟨rfl, -, rfl, -⟩ | ⟨hbody, -, hdescribe⟩
  · rw [if_pos rfl]
  · obtain ⟨-, rfl, -⟩ := describe_eq_ok hdescribe
    rw [if_neg hbody]

theorem hostText_of_isAscii {u : Url} (h : IsAscii u.netloc) : u.hostText = .ok u.netloc := by
  rw [Url.hostText, Charset.ascii.encode_of_isAscii h]
  rfl

theorem describe_ok (r : Request) (body : List UInt8) :
    ∃ more t, (describe body).run r = .ok more t := by
  refine Edit.setHeader_bind_ok (by decide) (by decide) fun _ => ?_
  refine Edit.setHeader_bind_ok (by decide) (isAscii_toString _) fun _ => ?_
  refine Edit.setHeader_bind_ok (by decide) (isAscii_bodyDigest body) fun _ => ?_
  exact ⟨_, _, rfl⟩

/-- Preparing succeeds if host and date are in ASCII and the body can be read. -/
theorem prepare_ok (hnetloc : IsAscii r.url.netloc) (hdate : dateText now given = .ok date)
    (hascii : IsAscii date) (hread : (r.read .blocking).1 = .ok body) :
    ∃ names t, (prepare now given).run r = .ok (signedLines r date body, names) t := by
  have hsucceeds : ∃ signed t, (prepare now given).run r = .ok signed t := by
    have hhost : r.url.hostText.mapError Fault.encode = .ok r.url.netloc := by
      rw [hostText_of_isAscii hnetloc]
      rfl
    rw [prepare, Edit.get_bind, hhost, hdate]
    refine Edit.setHeader_bind_ok (by decide) hnetloc fun first => ?_
    refine Edit.setHeader_bind_ok (by decide) hascii fun second => ?_
    obtain ⟨s, hs⟩ : ∃ s, Edit.body.run { r with headers := second } = .ok body s :=
      Edit.body_ok hread
    cases body with
    | nil => exact ⟨_, _, Edit.bind_eq_ok.mpr ⟨_, _, hs, rfl⟩⟩
    | cons b rest =>
      obtain ⟨more, t, ht⟩ := describe_ok s (b :: rest)
      exact ⟨_, t, Edit.bind_eq_ok.mpr ⟨_, _, hs, Edit.bind_eq_ok.mpr ⟨_, _, ht, rfl⟩⟩⟩
  obtain ⟨⟨lines, names⟩, t, h⟩ := hsucceeds
  obtain ⟨date', body', hdate', hread', rfl⟩ := prepare_lines h
  rw [hdate] at hdate'
  rw [hread] at hread'
  cases hdate'
  cases hread'
  exact ⟨names, t, h⟩

/-! ## Lines -/

/-- Whether method, target and host of a request each fit in a line, and the method has no blank. -/
structure Lined (r : Request) : Prop where
  /-- The method ends at the first blank. -/
  method_unblank : ' ' ∉ r.method.toList
  /-- The method is one line. -/
  method : IsLine r.method
  /-- The target is one line. -/
  target : IsLine r.url.target
  /-- Host and port are one line. -/
  netloc : IsLine r.url.netloc

instance (r : Request) : Decidable (Lined r) :=
  decidable_of_iff
    (' ' ∉ r.method.toList ∧ IsLine r.method ∧ IsLine r.url.target ∧ IsLine r.url.netloc)
    ⟨fun ⟨hblank, hmethod, htarget, hnetloc⟩ => ⟨hblank, hmethod, htarget, hnetloc⟩,
      fun h => ⟨h.1, h.2, h.3, h.4⟩⟩

theorem isLine_line {name value : String} (hname : IsLine name) (hvalue : IsLine value) :
    IsLine (line name value) :=
  (hname.append (by decide)).append hvalue

theorem isLine_of_dateText (hgiven : ∀ date ∈ given, IsLine date)
    (h : dateText now given = .ok date) : IsLine date := by
  cases given with
  | some stated =>
    obtain rfl := Except.ok.inj h
    exact hgiven _ rfl
  | none => exact HttpDate.isLine_of_ofSeconds (mapError_eq_ok.mp h)

theorem isLine_of_mem_signedLines (hr : Lined r) (hdate : IsLine date) {s : String}
    (h : s ∈ signedLines r date body) : IsLine s := by
  have hlower : IsLine (Text.lower r.method) := Text.isLine_lower hr.method
  rcases List.mem_append.mp h with h | h
  · simp only [List.mem_cons, List.not_mem_nil, or_false] at h
    rcases h with rfl | rfl | rfl
    · exact isLine_line (by decide) ((hlower.append (by decide)).append hr.target)
    · exact isLine_line (by decide) hr.netloc
    · exact isLine_line (by decide) hdate
  · split at h
    · cases h
    · simp only [List.mem_cons, List.not_mem_nil, or_false] at h
      rcases h with rfl | rfl | rfl
      · decide
      · exact isLine_line (by decide) (isLine_toString _)
      · exact isLine_line (by decide) (IsLine.append (by decide) (Text.Base64.isLine_encode _))

/-! ## Parts -/

theorem line_injective (name : String) : Function.Injective (line name) :=
  fun _ _ h => (String.append_right_inj _).mp h

theorem bodyDigest_eq_iff : bodyDigest body = bodyDigest body' ↔
    Sha512.digest body = Sha512.digest body' := by
  constructor
  · intro h
    exact Text.Base64.encode_injective ((String.append_right_inj _).mp h)
  · intro h
    rw [bodyDigest, bodyDigest, h]

/-- A text without a blank, and what comes after the blank behind it, are told apart. -/
theorem eq_of_append_blank {s s' u u' : String} (hs : ' ' ∉ s.toList) (hs' : ' ' ∉ s'.toList)
    (h : s ++ " " ++ u = s' ++ " " ++ u') : s = s' ∧ u = u' := by
  have h : s.toList ++ ' ' :: u.toList = s'.toList ++ ' ' :: u'.toList := by
    have hlist := congrArg String.toList h
    simpa [String.toList_append] using hlist
  have hbefore := congrArg (List.takeWhile (· ≠ ' ')) h
  have hafter := congrArg (List.dropWhile (· ≠ ' ')) h
  rw [takeWhile_ne hs, takeWhile_ne hs'] at hbefore
  rw [dropWhile_ne hs, dropWhile_ne hs'] at hafter
  exact ⟨String.toList_injective hbefore, String.toList_injective (List.cons.inj hafter).2⟩

theorem signedLines_inj (hr : ' ' ∉ r.method.toList) (hr' : ' ' ∉ r'.method.toList)
    (h : signedLines r date body = signedLines r' date' body') :
    Text.lower r.method = Text.lower r'.method ∧ r.url.target = r'.url.target ∧
      r.url.netloc = r'.url.netloc ∧ date = date' ∧
      (body = [] ∧ body' = [] ∨ body ≠ [] ∧ body' ≠ [] ∧ body.length = body'.length ∧
        Sha512.digest body = Sha512.digest body') := by
  have hlower := fun h => hr (Text.mem_of_mem_lower (by decide) h)
  have hlower' := fun h => hr' (Text.mem_of_mem_lower (by decide) h)
  obtain ⟨hrequest, hdescription⟩ := List.append_inj h rfl
  obtain ⟨htarget, hhost, hdate⟩ : _ ∧ _ ∧ _ := by
    simpa only [List.cons.injEq, and_true] using hrequest
  obtain ⟨hmethod, htarget⟩ := eq_of_append_blank hlower hlower' (line_injective _ htarget)
  refine ⟨hmethod, htarget, line_injective _ hhost, line_injective _ hdate, ?_⟩
  split_ifs at hdescription with hbody hbody' hbody'
  · exact Or.inl ⟨hbody, hbody'⟩
  · obtain ⟨-, hlength, hdigest⟩ : _ ∧ _ ∧ _ := by
      simpa only [List.cons.injEq, and_true] using hdescription
    exact Or.inr ⟨hbody, hbody', eq_of_toString_eq (line_injective _ hlength),
      bodyDigest_eq_iff.mp (line_injective _ hdigest)⟩

/-- The signed text determines the request. Two requests whose lines make one text have the same
method but for case, the same path and query, the same host and port and the same date; and they
both have no body, or both have one, of one length and one digest. -/
theorem signed_text_determines (hr : Lined r) (hr' : Lined r')
    (hgiven : ∀ date ∈ given, IsLine date) (hgiven' : ∀ date ∈ given', IsLine date)
    (h : (prepare now given).run r = .ok (lines, names) t)
    (h' : (prepare now' given').run r' = .ok (lines', names') t')
    (htext : "\n".intercalate lines = "\n".intercalate lines') :
    Text.lower r.method = Text.lower r'.method ∧ r.url.target = r'.url.target ∧
      r.url.netloc = r'.url.netloc ∧
      (∃ date, dateText now given = .ok date ∧ dateText now' given' = .ok date) ∧
      ∃ body body', (r.read .blocking).1 = .ok body ∧ (r'.read .blocking).1 = .ok body' ∧
        (body = [] ∧ body' = [] ∨ body ≠ [] ∧ body' ≠ [] ∧ body.length = body'.length ∧
          Sha512.digest body = Sha512.digest body') := by
  obtain ⟨date, body, hdate, hread, rfl⟩ := prepare_lines h
  obtain ⟨date', body', hdate', hread', rfl⟩ := prepare_lines h'
  have hlines : signedLines r date body = signedLines r' date' body' :=
    eq_of_intercalate_eq
      (fun s => isLine_of_mem_signedLines hr (isLine_of_dateText hgiven hdate))
      (fun s => isLine_of_mem_signedLines hr' (isLine_of_dateText hgiven' hdate'))
      (List.append_ne_nil_of_left_ne_nil (by simp) _)
      (List.append_ne_nil_of_left_ne_nil (by simp) _) htext
  obtain ⟨hmethod, htarget, hnetloc, rfl, hbodies⟩ :=
    signedLines_inj hr.method_unblank hr'.method_unblank hlines
  exact ⟨hmethod, htarget, hnetloc, ⟨date, hdate, hdate'⟩, body, body', hread, hread', hbodies⟩

/-- One body given at once and in pieces, under two spellings of the method. -/
theorem signed_text_determines_of_pieces :
    let url : Url := {
      scheme := "https", userinfo := "", host := "engine.example", port := some 8443
      path := "/api/vlan", query := some "page=1", fragment := none }
    let r : Request := {
      method := "POST", url, body := .held [123, 125]
      headers := { rows := [Headers.row "Date" "today"] } }
    let r' : Request := {
      method := "Post", url, body := .stream .blocking [[123], [], [125]] none
      headers := { rows := [] } }
    ∃ lines names t lines' names' t',
      (prepare 0 (some "Thu, 01 Jan 1970 00:00:00 GMT")).run r = .ok (lines, names) t ∧
      (prepare 0 none).run r' = .ok (lines', names') t' ∧
      "\n".intercalate lines = "\n".intercalate lines' ∧
      Text.lower r.method = Text.lower r'.method ∧
      ∃ body body', (r.read .blocking).1 = .ok body ∧ (r'.read .blocking).1 = .ok body' ∧
        (body = [] ∧ body' = [] ∨ body ≠ [] ∧ body' ≠ [] ∧ body.length = body'.length ∧
          Sha512.digest body = Sha512.digest body') := by
  intro url r r'
  let date := "Thu, 01 Jan 1970 00:00:00 GMT"
  have hgiven : dateText 0 (some date) = .ok date := rfl
  have hdate : dateText 0 none = .ok date := by decide
  have hmethod : Text.lower "POST" = Text.lower "Post" := by decide
  obtain ⟨names, t, h⟩ := prepare_ok (r := r) (by decide) hgiven (by decide) rfl
  obtain ⟨names', t', h'⟩ := prepare_ok (r := r') (by decide) hdate (by decide) rfl
  have htext : "\n".intercalate (signedLines r date [123, 125]) =
      "\n".intercalate (signedLines r' date [123, 125]) := by
    rw [signedLines, signedLines, hmethod]
  obtain ⟨hlower, -, -, -, hbodies⟩ :=
    signed_text_determines (by decide) (by decide) (by decide) (by decide) h h' htext
  exact ⟨_, names, t, _, names', t', h, h', htext, hlower, hbodies⟩

end ApiClient.Signature
