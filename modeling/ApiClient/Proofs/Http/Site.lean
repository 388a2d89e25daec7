import ApiClient.Http.Redirect
import ApiClient.Proofs.Http.Headers

/-!
# Sites and cookies

Requests for one address whose header fields agree but for one name have the same site, whatever the
character sets are in which the fields are read. A response that does not redirect is only looked at
for its cookies, which comes to an end unless the address names no place.
-/

namespace ApiClient

namespace Headers

variable {h t : Headers} {key : List UInt8}

theorem asciiLower_asciiLower (b : UInt8) : asciiLower (asciiLower b) = asciiLower b := by
  by_cases hletter : (0x41 ≤ b && b ≤ 0x5A) = true
  · have hlower : asciiLower b = b + 0x20 := if_pos hletter
    have hnone : ¬ (0x41 ≤ b + 0x20 && b + 0x20 ≤ 0x5A) = true := by
      simp only [Bool.and_eq_true, decide_eq_true_eq, UInt8.le_iff_toNat_le, UInt8.toNat_add,
        UInt8.reduceToNat] at hletter ⊢
      omega
    rw [hlower]
    exact if_neg hnone
  · have hlower : asciiLower b = b := if_neg hletter
    rw [hlower, hlower]

/-- A row with an ASCII name is found by the name that it is listed under. -/
theorem checkListed_of_ascii {r : HeaderRow} (hr : r ∈ h.rows) (hascii : AsciiBytes r.key) :
    h.checkListed r.key = .ok () := by
  obtain ⟨hname, hbytes⟩ := h.charset.asciiBytes_decode hascii
  have hlower : r.key.map asciiLower = r.key := by
    rw [HeaderRow.key, List.map_map]
    exact List.map_congr_left fun b _ => asciiLower_asciiLower b
  have hlookup : h.lookupKey (String.ofList (h.charset.decode r.key)) = .ok r.key := by
    rw [lookupKey, h.charset.encode_of_isAscii (Text.isAscii_lower hname), asciiBytes_lower hname,
      hbytes, hlower]
  have hkey : h.hasKey r.key = true := List.any_eq_true.mpr ⟨r, hr, decide_eq_true rfl⟩
  rw [checkListed, hlookup]
  show (if (!h.hasKey r.key) = true then _ else _) = _
  rw [hkey]
  rfl

theorem forM_eq_ok {α : Type} {f : α → Except Fault Unit} {l : List α} (h : ∀ a ∈ l, f a = .ok ()) :
    l.forM f = .ok () := by
  induction l with
  | nil => rfl
  | cons a rest ih =>
    obtain ⟨ha, hrest⟩ := List.forall_mem_cons.mp h
    show (f a >>= fun _ => rest.forM f) = _
    rw [ha]
    exact ih hrest

theorem asciiLower_lt {b : UInt8} (h : b < 0x80) : asciiLower b < 0x80 := by
  unfold asciiLower
  split
  · rename_i hletter
    simp only [Bool.and_eq_true, decide_eq_true_eq, UInt8.le_iff_toNat_le, UInt8.lt_iff_toNat_lt,
      UInt8.toNat_add, UInt8.reduceToNat] at hletter ⊢
    omega
  · exact h

/-- Header fields that agree but for one name are looked up with the same result. -/
theorem forM_checkListed_eq (hkey : AsciiBytes key) (hrows : RowsAlike key h.rows t.rows)
    (hreads : ReadAlike h.charset t.charset (otherRows key h.rows)) :
    (h.rows.forM fun row => h.checkListed row.key) =
      t.rows.forM fun row => t.checkListed row.key := by
  rcases hreads with hcharset | hascii
  · have hkeys := hrows.map_key
    have hhas : ∀ k, h.hasKey k = t.hasKey k := by
      intro k
      have hany : ∀ rows : List HeaderRow, rows.any (fun r => r.key = k) =
          (rows.map HeaderRow.key).any fun l => l = k := fun rows => by rw [List.any_map]; rfl
      rw [hasKey, hasKey, hany, hany, hkeys]
    have hcheck : ∀ k, h.checkListed k = t.checkListed k := by
      intro k
      rw [checkListed, checkListed, lookupKey, lookupKey, hcharset]
      simp only [hhas]
    have hforM : ∀ rows : List HeaderRow, (rows.forM fun row => t.checkListed row.key) =
        (rows.map HeaderRow.key).forM t.checkListed := fun rows => by simp
    simp only [hcheck]
    rw [hforM, hforM, hkeys]
  · -- then all names are ASCII, and every row is found
    have hothers := hrows.otherRows_eq
    have hnames : ∀ rows : List HeaderRow, otherRows key rows = otherRows key h.rows →
        ∀ r ∈ rows, AsciiBytes r.key := by
      intro rows hsame r hr
      by_cases hk : r.key = key
      · exact hk ▸ hkey
      · have hmem : r ∈ otherRows key h.rows :=
          hsame ▸ List.mem_filter.mpr ⟨hr, decide_eq_true hk⟩
        have hname := Charset.covers_ascii_iff.mp (coversAll_iff.mp hascii r hmem).1
        intro b hb
        obtain ⟨c, hc, rfl⟩ := List.mem_map.mp hb
        exact asciiLower_lt (hname c hc)
    rw [forM_eq_ok fun r hr => checkListed_of_ascii hr (hnames _ rfl r hr),
      forM_eq_ok fun r hr => checkListed_of_ascii hr (hnames _ hothers.symm r hr)]

end Headers

/-- Requests for one address whose header fields agree but for one name have the same site. -/
theorem Request.site_eq {q u : Request} {key : List UInt8} (hurl : q.url = u.url)
    (hkey : AsciiBytes key) (hne : Headers.fieldKey "host" ≠ key)
    (hrows : RowsAlike key q.headers.rows u.headers.rows)
    (hreads : Headers.ReadAlike q.headers.charset u.headers.charset
      (otherRows key q.headers.rows)) :
    q.site = u.site := by
  unfold Request.site
  rw [Headers.forM_checkListed_eq hkey hrows hreads, Headers.get?_eq hne hrows.otherRows_eq hreads,
    hurl]

/-! ## Cookies -/

/-- The port of a site that has a place is known, or known to be missing. -/
theorem Site.port_eq_ok {site : Site} (hplace : site.place? ≠ none) :
    ∃ port, site.port = .ok port := by
  obtain ⟨place, hplace⟩ := Option.ne_none_iff_exists'.mp hplace
  unfold Site.port
  rw [hplace]
  rcases hcut : Url.cutAt ':' place with ⟨host, _ | port⟩
  · simp only [hcut]
    exact ⟨_, rfl⟩
  · simp only [hcut]
    exact ⟨_, rfl⟩

theorem Cookie.isAccepted_eq_ok {site : Site} (hplace : site.place? ≠ none) (c : Cookie) :
    ∃ accepted, c.isAccepted site = .ok accepted := by
  obtain ⟨port, hport⟩ := Site.port_eq_ok hplace
  unfold Cookie.isAccepted
  split
  · exact ⟨_, rfl⟩
  · split
    · exact ⟨_, rfl⟩
    · rw [hport]
      exact ⟨_, rfl⟩

theorem filterM_eq_ok {α : Type} {f : α → Except Fault Bool} {l : List α}
    (h : ∀ a, ∃ b, f a = .ok b) : ∃ kept, l.filterM f = .ok kept := by
  have haux : ∀ kept, ∃ all, l.filterAuxM f kept = .ok all := by
    induction l with
    | nil => exact fun kept => ⟨kept, rfl⟩
    | cons a rest ih =>
      intro kept
      obtain ⟨b, hb⟩ := h a
      obtain ⟨all, hall⟩ := ih (cond b (a :: kept) kept)
      refine ⟨all, ?_⟩
      rw [List.filterAuxM, hb]
      exact hall
  obtain ⟨all, hall⟩ := haux []
  refine ⟨all.reverse, ?_⟩
  rw [List.filterM, hall]
  rfl

variable [Platform]

/-- A response to a request whose address names a place can be looked at for its cookies. -/
theorem Response.cookies_eq_ok {site : Site} (hplace : site.place? ≠ none) (r : Response) :
    ∃ jar, r.cookies site = .ok jar := by
  unfold Response.cookies
  simp only
  split
  · exact ⟨_, rfl⟩
  · obtain ⟨kept, hkept⟩ := filterM_eq_ok (Cookie.isAccepted_eq_ok hplace)
    rw [hkept]
    exact ⟨_, rfl⟩

/-- No request follows a response that does not redirect, unless the site of its request is not
known. -/
theorem Response.nextRequest?_of_stays {request : Request} {r : Response}
    (hlocation : r.location? = none)
    (hplace : ∀ site, request.site = .ok site → site.place? ≠ none) :
    r.nextRequest? request = request.site.map fun _ => none := by
  unfold Response.nextRequest?
  cases hsite : request.site with
  | error f => rfl
  | ok site =>
    obtain ⟨jar, hjar⟩ := r.cookies_eq_ok (hplace site hsite)
    rw [hlocation]
    show (r.cookies site >>= fun _ => pure none) = _
    rw [hjar]
    rfl

end ApiClient
