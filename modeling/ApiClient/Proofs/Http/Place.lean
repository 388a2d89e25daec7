import Mathlib.Data.List.TakeWhile
import ApiClient.Proofs.Http.Body

/-!
# Where addresses lead to

An address leads to the host and the port that its authority denotes. A text behind an address
continues the authority up to the first slash, question mark or number sign, unless something stands
behind the authority already. `place_append_iff` says of a plain authority which continuations leave
the place as it is.
-/

namespace ApiClient

/-! ## Escaping and splitting -/

theorem Percent.escapeChar_ne_nil (keep : Char → Bool) (c : Char) : escapeChar keep c ≠ [] := by
  unfold escapeChar
  split
  · exact List.cons_ne_nil _ _
  · intro hnil
    have hlength := String.length_utf8EncodeChar c
    rw [List.flatMap_eq_nil_iff] at hnil
    cases hbytes : String.utf8EncodeChar c with
    | nil =>
      rw [hbytes] at hlength
      exact absurd hlength.symm (Nat.ne_of_gt c.utf8Size_pos)
    | cons b rest => exact List.cons_ne_nil _ _ (hnil b (hbytes ▸ List.mem_cons_self))

theorem Percent.length_le_escape (keep : Char → Bool) (s : List Char) :
    s.length ≤ (escape keep s).length := by
  induction s with
  | nil => exact Nat.le_refl 0
  | cons c rest ih =>
    have hpos := List.length_pos_iff.mpr (escapeChar_ne_nil keep c)
    rw [escape, List.flatMap_cons, List.length_append, List.length_cons]
    rw [escape] at ih
    omega

namespace Host

variable {s t h : List Char}

theorem mem_splitOn {separator c : Char} (hc : c ∈ s) (hne : c ≠ separator) :
    ∃ part ∈ splitOn separator s, c ∈ part := by
  induction s with
  | nil => cases hc
  | cons d rest ih =>
    rw [splitOn]
    by_cases hd : d = separator
    · rw [if_pos hd]
      have hrest : c ∈ rest := (List.mem_cons.mp hc).resolve_left fun h => hne (h.trans hd)
      obtain ⟨part, hpart, hmem⟩ := ih hrest
      exact ⟨part, List.mem_cons_of_mem _ hpart, hmem⟩
    · rw [if_neg hd]
      cases hsplit : splitOn separator rest with
      | nil =>
        rcases List.mem_cons.mp hc with rfl | hrest
        · exact ⟨[c], List.mem_cons_self, List.mem_cons_self⟩
        · obtain ⟨part, hpart, -⟩ := ih hrest
          rw [hsplit] at hpart
          cases hpart
      | cons first parts =>
        rcases List.mem_cons.mp hc with rfl | hrest
        · exact ⟨_, List.mem_cons_self, List.mem_cons_self⟩
        · obtain ⟨part, hpart, hmem⟩ := ih hrest
          rw [hsplit] at hpart
          rcases List.mem_cons.mp hpart with rfl | hpart
          · exact ⟨_, List.mem_cons_self, List.mem_cons_of_mem _ hmem⟩
          · exact ⟨part, List.mem_cons_of_mem _ hpart, hmem⟩

/-- What looks like an IPv4 address consists of digits and dots. -/
theorem digit_of_looksLikeIPv4 (h : looksLikeIPv4 s = true) {c : Char} (hc : c ∈ s) :
    isDigit c = true ∨ c = '.' := by
  by_cases hdot : c = '.'
  · exact Or.inr hdot
  · obtain ⟨run, hrun, hmem⟩ := mem_splitOn hc hdot
    unfold looksLikeIPv4 at h
    simp only [Bool.and_eq_true, List.all_eq_true] at h
    exact Or.inl ((h.2 run hrun).2 c hmem)

theorem toNat_lt_of_digit {c : Char} (hc : isDigit c = true ∨ c = '.') : c.toNat < 0x3A := by
  rcases hc with hdigit | rfl
  · unfold isDigit at hdigit
    rw [Bool.and_eq_true, decide_eq_true_iff, decide_eq_true_iff] at hdigit
    exact Nat.lt_succ_of_le hdigit.2
  · decide

/-- What looks like an IPv4 address stands as it is in a host. -/
theorem isHostChar_of_digit {c : Char} (hc : isDigit c = true ∨ c = '.') :
    isHostChar c = true ∧ c.toLower = c := by
  have hall : ∀ n < 0x3A, isDigit (Char.ofNat n) = true ∨ Char.ofNat n = '.' →
      isHostChar (Char.ofNat n) = true ∧ (Char.ofNat n).toLower = Char.ofNat n := by decide
  have hchar := hall c.toNat (toNat_lt_of_digit hc)
  rw [Char.ofNat_toNat] at hchar
  exact hchar hc

/-- The characters of ASCII forms are not escaped. -/
theorem isUnreserved_of_isHostChar {c : Char} (hc : isHostChar c = true) :
    Percent.isUnreserved c = true := by
  have hall : ∀ n < 0x80, isHostChar (Char.ofNat n) = true →
      Percent.isUnreserved (Char.ofNat n) = true := by decide
  have hlt : c.toNat < 0x80 := by
    unfold isHostChar at hc
    simp only [Bool.or_eq_true, Bool.and_eq_true, decide_eq_true_eq] at hc
    obtain ((⟨-, hc⟩ | ⟨-, hc⟩) | rfl) | rfl := hc
    · exact Nat.lt_of_le_of_lt (Char.le_def.mp hc) (by decide)
    · exact Nat.lt_of_le_of_lt (Char.le_def.mp hc) (by decide)
    · decide
    · decide
  have hchar := hall c.toNat hlt
  rw [Char.ofNat_toNat] at hchar
  exact hchar hc

theorem escape_of_isHostChar {keep : Char → Bool} (h : ∀ c ∈ s, isHostChar c = true) :
    Percent.escape keep s = s := by
  induction s with
  | nil => rfl
  | cons c rest ih =>
    obtain ⟨hc, hrest⟩ := List.forall_mem_cons.mp h
    rw [Percent.escape, List.flatMap_cons, Percent.escapeChar, isUnreserved_of_isHostChar hc]
    exact congrArg _ (ih hrest)

/-- The host of an ASCII text that is not in brackets: the text if it looks like an IPv4 address,
else the text in lower case and escaped. -/
def ofAscii (s : List Char) : List Char :=
  if looksLikeIPv4 s then s else Percent.escape keepInName (s.map Char.toLower)

theorem length_le_ofAscii (s : List Char) : s.length ≤ (ofAscii s).length := by
  unfold ofAscii
  split
  · exact Nat.le_refl _
  · have hescaped := Percent.length_le_escape keepInName (s.map Char.toLower)
    rwa [List.length_map] at hescaped

theorem length_ofAscii (h : ∀ c ∈ s, isHostChar c.toLower = true) :
    (ofAscii s).length = s.length := by
  unfold ofAscii
  split
  · rfl
  · rw [escape_of_isHostChar (List.forall_mem_map.mpr h), List.length_map]

/-- An ASCII text that is continued in ASCII denotes another host. -/
theorem ofAscii_append_ne (hmore : t ≠ []) : ofAscii s ≠ ofAscii (s ++ t) := by
  intro heq
  have hlonger : 0 < t.length := List.length_pos_iff.mpr hmore
  have hlength : (s ++ t).length = s.length + t.length := List.length_append
  by_cases hlooks : looksLikeIPv4 (s ++ t) = true
  · -- then both consist of digits and dots, and stand for themselves
    have hdigits : ∀ c ∈ s, isHostChar c.toLower = true := fun c hc => by
      obtain ⟨hhost, hlower⟩ :=
        isHostChar_of_digit (digit_of_looksLikeIPv4 hlooks (List.mem_append_left t hc))
      rwa [hlower]
    have hlengths := congrArg List.length heq
    rw [length_ofAscii hdigits] at hlengths
    have := length_le_ofAscii (s ++ t)
    omega
  · have hescaped := Percent.length_le_escape keepInName (t.map Char.toLower)
    have hleft := Percent.length_le_escape keepInName (s.map Char.toLower)
    have hlengths := congrArg List.length heq
    have hboth : Percent.escape keepInName ((s ++ t).map Char.toLower) =
        Percent.escape keepInName (s.map Char.toLower) ++
          Percent.escape keepInName (t.map Char.toLower) := by
      rw [List.map_append, Percent.escape, List.flatMap_append]
      rfl
    rw [ofAscii, ofAscii, if_neg hlooks, hboth, List.length_append] at hlengths
    rw [List.length_map] at hescaped hleft
    split at hlengths
    · omega
    · omega

variable [Platform]

/-- The host of a text that is not in brackets is that of an ASCII text or the ASCII form of a
name. -/
theorem ofText_eq_ok (hsome : s ≠ []) (hopen : s.head? ≠ some '[') (hs : ofText s = .ok h) :
    (∀ c ∈ s, c.toNat < 0x80) ∧ h = ofAscii s ∨
      (¬ ∀ c ∈ s, c.toNat < 0x80) ∧ Platform.idna.encode s = some h := by
  have hbrackets : ¬ (s.head? = some '[' && 2 ≤ s.length && s.getLast? = some ']') = true := by
    simp [hopen]
  have hascii : (s.all fun c => c.toNat < 0x80) = true ↔ ∀ c ∈ s, c.toNat < 0x80 := by simp
  unfold ofText at hs
  rw [if_neg (by simpa using hsome)] at hs
  unfold ofAscii
  by_cases hlooks : looksLikeIPv4 s = true
  · rw [if_pos hlooks] at hs ⊢
    split at hs
    · refine .inl ⟨fun c hc => ?_, (Except.ok.inj hs).symm⟩
      exact Nat.lt_trans (toNat_lt_of_digit (digit_of_looksLikeIPv4 hlooks hc)) (by decide)
    · cases hs
  · rw [if_neg hlooks, if_neg hbrackets] at hs
    rw [if_neg hlooks]
    split at hs
    · rename_i hall
      exact .inl ⟨hascii.mp hall, (Except.ok.inj hs).symm⟩
    · rename_i hall
      refine .inr ⟨mt hascii.mpr hall, ?_⟩
      split at hs
      · rename_i name hname
        rw [hname, Except.ok.inj hs]
      · cases hs

/-- A host that is continued is another host. -/
theorem ofText_append_ne (hsome : s ≠ []) (hopen : s.head? ≠ some '[') (hmore : t ≠ [])
    (hs : ofText s = .ok h) : ofText (s ++ t) ≠ .ok h := by
  intro hst
  have hopen' : (s ++ t).head? ≠ some '[' := by
    rwa [List.head?_append, List.head?_eq_some_head hsome, Option.some_or,
      ← List.head?_eq_some_head hsome]
  rcases ofText_eq_ok (List.append_ne_nil_of_left_ne_nil hsome t) hopen' hst with
    ⟨hall, hname'⟩ | ⟨-, hname'⟩
  · rcases ofText_eq_ok hsome hopen hs with ⟨-, hname⟩ | ⟨hnot, -⟩
    · exact ofAscii_append_ne hmore (hname.symm.trans hname')
    · exact hnot fun c hc => hall c (List.mem_append_left t hc)
  · rcases ofText_eq_ok hsome hopen hs with ⟨hall, rfl⟩ | ⟨-, hname⟩
    · -- the ASCII form is longer than an ASCII text that begins its name
      have hlonger := Platform.idna.length_lt_of_ascii hname' hall hmore
      rw [length_ofAscii fun c hc =>
        Platform.idna.isHostChar_of_ascii hname' c (List.mem_append_left t hc) (hall c hc)]
        at hlonger
      exact Nat.lt_irrefl _ hlonger
    · exact Platform.idna.encode_append_ne hname hmore hname'

end Host

namespace Url

variable {mark c : Char} {s t before after added port : List Char}

/-! ## Cutting an authority -/

theorem cutAtLast?_of_not_mem (h : mark ∉ s) : cutAtLast? mark s = none := by
  have hall : ∀ d ∈ s.reverse, decide (d ≠ mark) = true := fun d hd =>
    decide_eq_true fun heq => h (heq ▸ List.mem_reverse.mp hd)
  unfold cutAtLast?
  rw [List.takeWhile_eq_self_iff.mpr hall, List.reverse_reverse]
  exact if_pos rfl

theorem cutAtLast?_append (h : mark ∉ after) :
    cutAtLast? mark (before ++ mark :: after) = some (before, after) := by
  have hall : ∀ d ∈ after.reverse, decide (d ≠ mark) = true := fun d hd =>
    decide_eq_true fun heq => h (heq ▸ List.mem_reverse.mp hd)
  have hbehind : (((before ++ mark :: after).reverse.takeWhile (· ≠ mark)).reverse) = after := by
    rw [List.reverse_append, List.reverse_cons, List.append_assoc,
      List.takeWhile_append_of_pos hall, List.singleton_append,
      List.takeWhile_cons_of_neg (by simp), List.append_nil, List.reverse_reverse]
  unfold cutAtLast?
  simp only [hbehind, List.length_append, List.length_cons]
  rw [if_neg (by omega), show before.length + (after.length + 1) - after.length - 1 =
    before.length by omega, List.take_left]

theorem exists_last (h : mark ∈ s) :
    ∃ before after, s = before ++ mark :: after ∧ mark ∉ after := by
  obtain ⟨front, back, hs, hfront⟩ := List.eq_append_cons_of_mem (List.mem_reverse.mpr h)
  refine ⟨back.reverse, front.reverse, ?_, fun hmem => hfront (List.mem_reverse.mp hmem)⟩
  rw [← List.reverse_reverse s, hs]
  simp

/-- A host that is not in brackets reaches to the first colon. -/
theorem cutHost_eq (h : s.head? ≠ some '[') :
    cutHost s = (s.takeWhile (· ≠ ':'), s.dropWhile (· ≠ ':')) := by
  unfold cutHost
  split
  · exact absurd rfl h
  · rfl

theorem cutUserHostPort_of_not_mem (h : '@' ∉ s) : cutUserHostPort s =
    ([], (cutHost s).1, match (cutHost s).2 with | ':' :: port => port | rest => rest) := by
  unfold cutUserHostPort
  rw [cutAtLast?_of_not_mem h]
  rfl

/-- An authority is a host name or an IPv4 address and nothing else. -/
structure IsPlain (authority : List Char) : Prop where
  /-- It is not empty. -/
  nonempty : authority ≠ []
  /-- There is no user information. -/
  user : '@' ∉ authority
  /-- There is no port. -/
  port : ':' ∉ authority
  /-- There are no brackets around it. -/
  bracket : authority.head? ≠ some '['

namespace IsPlain

variable {authority more : List Char}

theorem user_append (h : IsPlain authority) (hmore : '@' ∉ more) : '@' ∉ authority ++ more :=
  fun hmem => (List.mem_append.mp hmem).elim h.user hmore

theorem port_append (h : IsPlain authority) (hmore : ':' ∉ more) : ':' ∉ authority ++ more :=
  fun hmem => (List.mem_append.mp hmem).elim h.port hmore

theorem bracket_append (h : IsPlain authority) (more : List Char) :
    (authority ++ more).head? ≠ some '[' := by
  cases authority with
  | nil => exact absurd rfl h.nonempty
  | cons c rest => exact h.bracket

end IsPlain

/-! ## Places -/

section Places

variable [Platform]

/-- The host and the port that an authority denotes behind a scheme. -/
def place (scheme authority : List Char) : Except Error (List Char × Option Int) := do
  let (_, host, port) := cutUserHostPort authority
  let host ← (Host.ofText host).mapError .host
  let port ← normalPort scheme port
  return (host, port)

/-- An address leads to the place that its authority denotes. -/
theorem place_of_ofParts {p : Parts} {u : Url} (h : ofParts p = .ok u) :
    u.scheme = String.ofList (p.scheme.map Char.toLower) ∧
      place p.scheme p.authority = .ok (u.host.toList, u.port) := by
  unfold ofParts at h
  unfold place
  rcases hcut : cutUserHostPort p.authority with ⟨userinfo, host, port⟩
  simp only [hcut] at h ⊢
  obtain ⟨name, hname, h⟩ := bind_eq_ok.mp h
  obtain ⟨number, hnumber, h⟩ := bind_eq_ok.mp h
  obtain ⟨⟨⟩, -, h⟩ := bind_eq_ok.mp h
  cases h
  rw [hname, hnumber, String.toList_ofList]
  exact ⟨rfl, rfl⟩

/-- The user information of an authority does not matter for its place. -/
theorem place_append_at (scheme before : List Char) (h : '@' ∉ after) :
    place scheme (before ++ '@' :: after) = place scheme after := by
  have hcut : (cutUserHostPort (before ++ '@' :: after)).2 = (cutUserHostPort after).2 := by
    rw [cutUserHostPort_of_not_mem h]
    unfold cutUserHostPort
    rw [cutAtLast?_append h]
    rfl
  rcases hleft : cutUserHostPort (before ++ '@' :: after) with ⟨user, host, port⟩
  rcases hright : cutUserHostPort after with ⟨user', host', port'⟩
  rw [hleft, hright] at hcut
  obtain ⟨rfl, rfl⟩ := Prod.mk.inj hcut
  simp only [place, hleft, hright]

/-- A name without a port. -/
theorem place_name (scheme : List Char) (hat : '@' ∉ s) (hcolon : ':' ∉ s)
    (hopen : s.head? ≠ some '[') :
    place scheme s = (Host.ofText s).mapError .host >>= fun host => .ok (host, none) := by
  have hall : ∀ d ∈ s, decide (d ≠ ':') = true := fun d hd =>
    decide_eq_true fun heq => hcolon (heq ▸ hd)
  have hcut : cutHost s = (s, []) := by
    rw [cutHost_eq hopen, List.takeWhile_eq_self_iff.mpr hall, List.dropWhile_eq_nil_iff.mpr hall]
  simp only [place, cutUserHostPort_of_not_mem hat, hcut]
  rfl

/-- A name and a port. -/
theorem place_name_port (scheme : List Char) (hat : '@' ∉ s) (hcolon : ':' ∉ s)
    (hopen : s.head? ≠ some '[') (hport : '@' ∉ port) : place scheme (s ++ ':' :: port) =
      (Host.ofText s).mapError .host >>= fun host =>
        normalPort scheme port >>= fun number => .ok (host, number) := by
  have hall : ∀ d ∈ s, decide (d ≠ ':') = true := fun d hd =>
    decide_eq_true fun heq => hcolon (heq ▸ hd)
  have hcut : cutHost (s ++ ':' :: port) = (s, ':' :: port) := by
    have hopen' : (s ++ ':' :: port).head? ≠ some '[' := by
      cases s with
      | nil => simp
      | cons c rest => exact hopen
    rw [cutHost_eq hopen', List.takeWhile_append_of_pos hall, List.dropWhile_append_of_pos hall,
      List.takeWhile_cons_of_neg (by simp), List.dropWhile_cons_of_neg (by simp), List.append_nil]
  have hnone : '@' ∉ s ++ ':' :: port := by simp [hat, hport]
  simp only [place, cutUserHostPort_of_not_mem hnone, hcut]
  rfl

theorem IsPlain.place_eq_ok {scheme authority : List Char} {target : List Char × Option Int}
    (h : IsPlain authority) (hplace : place scheme authority = .ok target) :
    ∃ host, Host.ofText authority = .ok host ∧ target = (host, none) := by
  rw [place_name scheme h.user h.port h.bracket] at hplace
  obtain ⟨host, hhost, hto⟩ := bind_eq_ok.mp hplace
  exact ⟨host, mapError_eq_ok.mp hhost, (Except.ok.inj hto).symm⟩

/-- A plain authority that is continued denotes the same place if and only if it is continued by
nothing, by the port of the scheme, or by user information and another text for that place. -/
theorem place_append_iff {scheme authority : List Char} {target : List Char × Option Int}
    (hplain : IsPlain authority) (hplace : place scheme authority = .ok target) :
    place scheme (authority ++ added) = .ok target ↔
      added = [] ∨
      (∃ port, added = ':' :: port ∧ '@' ∉ port ∧ normalPort scheme port = .ok none) ∨
      ∃ before after, added = before ++ '@' :: after ∧ '@' ∉ after ∧
        place scheme after = .ok target := by
  obtain ⟨host, hhost, rfl⟩ := hplain.place_eq_ok hplace
  constructor
  · intro hstays
    by_cases hat : '@' ∈ added
    · obtain ⟨before, after, rfl, hafter⟩ := exists_last hat
      rw [← List.append_assoc, place_append_at _ _ hafter] at hstays
      exact Or.inr (Or.inr ⟨before, after, rfl, hafter, hstays⟩)
    · have hcontinued : ∀ more, more ≠ [] → Host.ofText (authority ++ more) ≠ .ok host :=
        fun more hmore => Host.ofText_append_ne hplain.nonempty hplain.bracket hmore hhost
      by_cases hcolon : ':' ∈ added
      · obtain ⟨name, port, rfl, hname⟩ := List.eq_append_cons_of_mem hcolon
        rw [List.mem_append, List.mem_cons, not_or, not_or] at hat
        rw [← List.append_assoc, place_name_port scheme (hplain.user_append hat.1)
          (hplain.port_append hname) (hplain.bracket_append name) hat.2.2] at hstays
        obtain ⟨continued, hhost', hstays⟩ := bind_eq_ok.mp hstays
        obtain ⟨number, hnumber, hto⟩ := bind_eq_ok.mp hstays
        cases hto
        by_cases hnil : name = []
        · rw [hnil]
          exact Or.inr (Or.inl ⟨port, rfl, hat.2.2, hnumber⟩)
        · exact absurd (mapError_eq_ok.mp hhost') (hcontinued name hnil)
      · rw [place_name scheme (hplain.user_append hat) (hplain.port_append hcolon)
          (hplain.bracket_append added)] at hstays
        obtain ⟨continued, hhost', hto⟩ := bind_eq_ok.mp hstays
        cases hto
        by_cases hnil : added = []
        · exact Or.inl hnil
        · exact absurd (mapError_eq_ok.mp hhost') (hcontinued added hnil)
  · rintro (rfl | ⟨port, rfl, hport, hnumber⟩ | ⟨before, after, rfl, hafter, hto⟩)
    · rwa [List.append_nil]
    · rw [place_name_port scheme hplain.user hplain.port hplain.bracket hport, hhost, hnumber]
      rfl
    · rw [← List.append_assoc, place_append_at _ _ hafter]
      exact hto

end Places

/-! ## Continuing an address -/

/-- Whether `c` may stand in an authority. -/
def inAuthority (c : Char) : Bool :=
  c ≠ '/' && c ≠ '?' && c ≠ '#'

/-- What a text adds to the authority of an address when it is put behind it: its beginning, unless
something stands behind the authority. -/
def Parts.continuedBy (p : Parts) (text : List Char) : List Char :=
  if p.path = [] ∧ p.query = none ∧ p.fragment = none then text.takeWhile inAuthority else []

theorem Parts.continuedBy_of_mark (p : Parts) {text : List Char}
    (h : ∀ mark, text.head? = some mark → mark = '/' ∨ mark = '?' ∨ mark = '#') :
    p.continuedBy text = [] := by
  unfold continuedBy
  split
  · cases text with
    | nil => rfl
    | cons mark rest =>
      have houtside : ¬ inAuthority mark = true := by
        rcases h mark rfl with rfl | rfl | rfl
        · decide
        · decide
        · decide
      exact List.takeWhile_cons_of_neg houtside
  · rfl

theorem cutScheme_append {scheme rest : List Char} (h : cutScheme s = (scheme, rest))
    (hsome : scheme ≠ []) (t : List Char) : cutScheme (s ++ t) = (scheme, rest ++ t) := by
  unfold cutScheme at h ⊢
  split at h
  · rename_i rest' hrest
    have hdrop : (s ++ t).dropWhile isSchemeChar = ':' :: (rest' ++ t) := by
      rw [List.dropWhile_append, hrest]
      rfl
    have htake : (s ++ t).takeWhile isSchemeChar = s.takeWhile isSchemeChar := by
      have hlength : ¬ (s.takeWhile isSchemeChar).length = s.length := by
        intro hall
        have hdropped := List.takeWhile_append_dropWhile (p := isSchemeChar) (l := s)
        have := congrArg List.length hdropped
        rw [List.length_append, hall, hrest, List.length_cons] at this
        omega
      rw [List.takeWhile_append, if_neg hlength]
    simp only [hdrop, htake]
    dsimp only at h
    split at h
    · rename_i halpha
      rw [if_pos halpha]
      cases h
      rfl
    · cases h
      exact absurd rfl hsome
  · cases h
    exact absurd rfl hsome

theorem cutAuthority_append {authority rest : List Char} (h : cutAuthority s = (authority, rest))
    (hsome : authority ≠ []) (t : List Char) : cutAuthority (s ++ t) =
      if rest = [] then (authority ++ t.takeWhile inAuthority, t.dropWhile inAuthority)
      else (authority, rest ++ t) := by
  unfold cutAuthority at h
  split at h
  · rename_i inner
    obtain ⟨htake, hdrop⟩ := Prod.mk.inj h
    have hcut : cutAuthority ('/' :: '/' :: inner ++ t) =
        ((inner ++ t).takeWhile inAuthority, (inner ++ t).dropWhile inAuthority) := rfl
    have htake : inner.takeWhile inAuthority = authority := htake
    have hdrop : inner.dropWhile inAuthority = rest := hdrop
    have hinner : inner = authority ++ rest := by
      rw [← htake, ← hdrop, List.takeWhile_append_dropWhile]
    rw [hcut, List.takeWhile_append, List.dropWhile_append, htake, hdrop]
    cases rest with
    | nil => simp [hinner]
    | cons c rest => simp [hinner]
  · cases h
    exact absurd rfl hsome

theorem cutAt_eq_nil_iff : cutAt mark s = ([], none) ↔ s = [] := by
  unfold cutAt
  constructor
  · intro h
    split at h
    · exact congrArg Prod.fst h
    · exact absurd (Prod.mk.inj h).2 nofun
  · rintro rfl
    rfl

/-- The scheme and the authority of a text, and whether anything stands behind these. -/
theorem Parts.ofText_eq {scheme rest authority behind : List Char}
    (hscheme : cutScheme s = (scheme, rest))
    (hauthority : cutAuthority rest = (authority, behind)) :
    (ofText s).scheme = scheme ∧ (ofText s).authority = authority ∧
      ((ofText s).path = [] ∧ (ofText s).query = none ∧ (ofText s).fragment = none ↔
        behind = []) := by
  rcases hfragment : cutAt '#' behind with ⟨front, fragment⟩
  rcases hquery : cutAt '?' front with ⟨path, query⟩
  have hparts : ofText s = { scheme, authority, path, query, fragment } := by
    simp only [ofText, hscheme, hauthority, hfragment, hquery]
  rw [hparts]
  refine ⟨rfl, rfl, ?_⟩
  constructor
  · rintro ⟨rfl, rfl, rfl⟩
    obtain rfl := cutAt_eq_nil_iff.mp hquery
    exact cutAt_eq_nil_iff.mp hfragment
  · rintro rfl
    cases hfragment
    cases hquery
    exact ⟨rfl, rfl, rfl⟩

/-- A text behind an address continues its authority, unless something stands between. -/
theorem Parts.ofText_append (hscheme : (ofText s).scheme ≠ [])
    (hauthority : (ofText s).authority ≠ []) (t : List Char) :
    (ofText (s ++ t)).scheme = (ofText s).scheme ∧
      (ofText (s ++ t)).authority = (ofText s).authority ++ (ofText s).continuedBy t := by
  rcases hcut : cutScheme s with ⟨scheme, rest⟩
  rcases hcut' : cutAuthority rest with ⟨authority, behind⟩
  obtain ⟨hs, ha, hbehind⟩ := ofText_eq hcut hcut'
  rw [hs] at hscheme ⊢
  rw [ha] at hauthority ⊢
  have happend := cutScheme_append hcut hscheme t
  have happend' := cutAuthority_append hcut' hauthority t
  unfold continuedBy
  by_cases hnothing : behind = []
  · rw [if_pos hnothing] at happend'
    obtain ⟨hs', ha', -⟩ := ofText_eq happend happend'
    rw [if_pos (hbehind.mpr hnothing)]
    exact ⟨hs', ha'⟩
  · rw [if_neg hnothing] at happend'
    obtain ⟨hs', ha', -⟩ := ofText_eq happend happend'
    rw [if_neg fun h => hnothing (hbehind.mp h), List.append_nil]
    exact ⟨hs', ha'⟩

end Url

end ApiClient
