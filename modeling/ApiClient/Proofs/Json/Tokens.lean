import Mathlib.Data.List.Basic
import Mathlib.Data.List.TakeWhile
import Mathlib.Tactic.SplitIfs
import ApiClient.Json.Reader
import ApiClient.Proofs.Json.Text

/-!
# Reading the tokens of JSON

Strings, numbers and words are read as what they stand for, up to their end. A number ends where no
character follows that could belong to it.
-/

namespace ApiClient.Json

variable {s t rest whole digits chars : List Char} {c : Char} {n : Nat}

/-! ## Strings -/

theorem unescape?_of_mem {e : Char} (h : (c, e) ∈ escapes) : e ≠ 'u' ∧ unescape? e = some c := by
  have hall : ∀ pair ∈ escapes, pair.2 ≠ 'u' ∧ unescape? pair.2 = some pair.1 := by decide
  exact hall _ h

theorem toLower_of_not_ascii (h : ¬ c.toNat < 0x80) : c.toLower = c := by
  refine dif_neg fun ⟨_, hle⟩ => h ?_
  have hle : c.toNat ≤ 'Z'.toNat := UInt32.le_iff_toNat_le.mp hle
  exact Nat.lt_of_le_of_lt hle (by decide)

theorem hexValue?_of_toLower (h : c.toLower = Text.hexDigit n) :
    Text.hexValue? c = some (n % 16) := by
  have hdigit : ∀ m < 16, (Nat.digitChar m).toNat < 0x80 := by decide
  have hall : ∀ k < 0x80, ∀ m < 16, (Char.ofNat k).toLower = Nat.digitChar m →
      Text.hexValue? (Char.ofNat k) = some m := by decide +kernel
  have hmod : n % 16 < 16 := Nat.mod_lt _ (by decide)
  have hascii : c.toNat < 0x80 := by
    by_contra hnot
    have hlow : c.toLower.toNat < 0x80 := by
      rw [h]
      exact hdigit _ hmod
    rw [toLower_of_not_ascii hnot] at hlow
    exact hnot hlow
  have hc := hall c.toNat hascii _ hmod
  rw [Char.ofNat_toNat] at hc
  exact hc h

/-- Four hexadecimal digits are read as the code unit that they stand for. -/
theorem codeUnit?_of_hex4 (hn : n < 0x10000) (h : digits.map Char.toLower = hex4 n)
    (hrest : rest ≠ []) : codeUnit? (digits ++ rest) = some (n, rest) := by
  have hlength : digits.length = 4 := by
    have := congrArg List.length h
    rwa [List.length_map] at this
  obtain ⟨x, xs, rfl⟩ := List.exists_cons_of_ne_nil hrest
  match digits, hlength with
  | [a, b, c, d], _ =>
    simp only [hex4, List.map_cons, List.map_nil, List.cons.injEq, and_true] at h
    obtain ⟨ha, hb, hc, hd⟩ := h
    show (hex4? a b c d).map _ = _
    unfold hex4?
    rw [hexValue?_of_toLower ha, hexValue?_of_toLower hb, hexValue?_of_toLower hc,
      hexValue?_of_toLower hd]
    simp only [bind, Option.bind, pure, Option.map_some, Option.some.injEq, Prod.mk.injEq, and_true]
    omega

theorem secondHalf?_of_hex4 (hn : n < 0x10000) (hhalf : Text.isSecondHalf n = true)
    (h : digits.map Char.toLower = hex4 n) (hrest : rest ≠ []) :
    secondHalf? ('\\' :: 'u' :: (digits ++ rest)) = .ok (some (n, rest)) := by
  have hlength : ¬ (digits ++ rest).length ≤ 4 := by
    have hdigits := congrArg List.length h
    rw [List.length_map] at hdigits
    have hfour : (hex4 n).length = 4 := rfl
    have hpos := List.length_pos_iff.mpr hrest
    rw [List.length_append]
    omega
  simp only [secondHalf?, if_neg hlength, codeUnit?_of_hex4 hn h hrest, hhalf, if_true]

theorem toNat_lt (c : Char) : c.toNat < 0x110000 := by
  have := c.valid
  rcases this with h | ⟨-, h⟩
  · exact Nat.lt_trans h (by decide)
  · exact h

theorem charOrReplacement_toNat (c : Char) :
    Text.isFirstHalf c.toNat = false ∧ Text.charOrReplacement c.toNat = c := by
  have hvalid : c.toNat < 0xD800 ∨ 0xDFFF < c.toNat ∧ c.toNat < 0x110000 := c.valid
  have hfirst : Text.isFirstHalf c.toNat = false := by
    rw [Text.isFirstHalf, Bool.and_eq_false_iff, decide_eq_false_iff_not, decide_eq_false_iff_not]
    omega
  have hsecond : Text.isSecondHalf c.toNat = false := by
    rw [Text.isSecondHalf, Bool.and_eq_false_iff, decide_eq_false_iff_not, decide_eq_false_iff_not]
    omega
  refine ⟨hfirst, ?_⟩
  rw [Text.charOrReplacement, hfirst, hsecond]
  exact Char.ofNat_toNat c

/-- The code units of a character beyond the first plane are halves of a pair, and make up that
character. -/
theorem joinHalves_of_toNat (hc : 0x10000 ≤ c.toNat) :
    let first := 0xD800 + (c.toNat - 0x10000) / 1024
    let second := 0xDC00 + (c.toNat - 0x10000) % 1024
    Text.isFirstHalf first = true ∧ Text.isSecondHalf second = true ∧
      first < 0x10000 ∧ second < 0x10000 ∧ Text.joinHalves first second = c := by
  intro first second
  have hlt := toNat_lt c
  refine ⟨?_, ?_, by omega, by omega, ?_⟩
  · rw [Text.isFirstHalf, Bool.and_eq_true, decide_eq_true_eq, decide_eq_true_eq]
    omega
  · rw [Text.isSecondHalf, Bool.and_eq_true, decide_eq_true_eq, decide_eq_true_eq]
    omega
  · have hsum : 0x10000 + (first - 0xD800) * 1024 + (second - 0xDC00) = c.toNat := by omega
    rw [Text.joinHalves, hsum, Char.ofNat_toNat]

/-- A character in a string is read as that character. -/
theorem stringRest_of_charText (h : CharText c t) {fuel : Nat} (hrest : rest ≠ []) :
    stringRest whole (fuel + 1) (t ++ rest) =
      (stringRest whole fuel rest).map fun (s, end_) => (c :: s, end_) := by
  cases h with
  | plain hquote hbackslash hcontrol =>
    show stringRest whole (fuel + 1) (c :: rest) = _
    simp only [stringRest, if_neg hquote, if_neg hbackslash, if_neg (Nat.not_lt.mpr hcontrol)]
    rfl
  | escape h =>
    rename_i e
    obtain ⟨hu, hunescape⟩ := unescape?_of_mem h
    have hquote : '\\' ≠ '"' := by decide
    show stringRest whole (fuel + 1) ('\\' :: e :: rest) = _
    simp only [stringRest, if_neg hquote, if_true, if_neg hu, hunescape]
    rfl
  | unit hc hdigits =>
    rename_i digits
    obtain ⟨hfirst, hchar⟩ := charOrReplacement_toNat c
    have hquote : '\\' ≠ '"' := by decide
    show stringRest whole (fuel + 1) ('\\' :: 'u' :: (digits ++ rest)) = _
    simp only [stringRest, if_neg hquote, if_true, codeUnit?_of_hex4 hc hdigits hrest, hfirst]
    show (stringRest whole fuel rest >>= fun x => _) = _
    rw [hchar]
    rfl
  | pair hc hfirst hsecond =>
    rename_i first second
    obtain ⟨hfirsthalf, hsecondhalf, hfirstlt, hsecondlt, hjoin⟩ := joinHalves_of_toNat hc
    have hquote : '\\' ≠ '"' := by decide
    have hne : '\\' :: 'u' :: (second ++ rest) ≠ [] := List.cons_ne_nil _ _
    have htext : '\\' :: 'u' :: first ++ '\\' :: 'u' :: second ++ rest =
      '\\' :: 'u' :: (first ++ '\\' :: 'u' :: (second ++ rest)) := by simp
    rw [htext]
    simp only [stringRest, if_neg hquote, if_true, codeUnit?_of_hex4 hfirstlt hfirst hne,
      hfirsthalf, secondHalf?_of_hex4 hsecondlt hsecondhalf hsecond hrest]
    show (stringRest whole fuel rest >>= fun x => _) = _
    rw [hjoin]
    rfl

theorem CharText.ne_nil (h : CharText c t) : t ≠ [] := by
  cases h with
  | plain => exact List.cons_ne_nil _ _
  | escape => exact List.cons_ne_nil _ _
  | unit => exact List.cons_ne_nil _ _
  | pair => exact List.cons_ne_nil _ _

theorem stringRest_of_charsText (h : CharsText chars t) {fuel : Nat} (hfuel : t.length < fuel) :
    stringRest whole fuel (t ++ '"' :: rest) = .ok (chars, rest) := by
  induction h generalizing fuel with
  | nil =>
    obtain ⟨fuel, rfl⟩ := Nat.exists_eq_add_of_lt hfuel
    simp only [List.length_nil, Nat.zero_add, List.nil_append, stringRest, if_true]
  | cons hc hchars ih =>
    rename_i c chars t ts
    have hpos := List.length_pos_iff.mpr hc.ne_nil
    rw [List.length_append] at hfuel
    obtain ⟨fuel, rfl⟩ := Nat.exists_eq_succ_of_ne_zero (Nat.ne_of_gt (Nat.zero_lt_of_lt hfuel))
    rw [List.append_assoc, stringRest_of_charText hc (by simp), ih (by omega)]
    rfl

/-- A string is read up to its closing quotation mark. -/
theorem string_of_stringText {s : String} (h : StringText s t) (rest : List Char) :
    ∃ inner, t = '"' :: inner ∧ string (inner ++ rest) = .ok (s, rest) := by
  obtain ⟨h⟩ := h
  rename_i inner
  refine ⟨inner ++ ['"'], rfl, ?_⟩
  have hfuel : inner.length < (inner ++ '"' :: rest).length + 1 := by
    rw [List.length_append]
    omega
  unfold string
  rw [List.append_assoc, List.singleton_append, stringRest_of_charsText h hfuel]
  show Except.ok (String.ofList s.toList, rest) = _
  rw [String.ofList_toList]

/-! ## Numbers -/

/-- A number ends in front of a text. -/
def Ends (s : List Char) : Prop :=
  ∀ c, s.head? = some c → isDigit c = false ∧ c ≠ '.' ∧ c ≠ 'e' ∧ c ≠ 'E'

theorem takeWhile_isDigit (h : ∀ c ∈ digits, c.isDigit = true)
    (hrest : ∀ c, rest.head? = some c → isDigit c = false) :
    (digits ++ rest).takeWhile isDigit = digits ∧ (digits ++ rest).dropWhile isDigit = rest := by
  have h : ∀ c ∈ digits, isDigit c = true := h
  rw [List.takeWhile_append_of_pos h, List.dropWhile_append_of_pos h]
  cases rest with
  | nil => exact ⟨List.append_nil _, rfl⟩
  | cons c rest =>
    have hc := Bool.eq_false_iff.mp (hrest c rfl)
    rw [List.takeWhile_cons_of_neg hc, List.dropWhile_cons_of_neg hc]
    exact ⟨List.append_nil _, rfl⟩

theorem digitsValue_eq (digits : List Char) :
    digitsValue digits = Nat.ofDigitChars 10 digits 0 := by
  rw [digitsValue, Nat.ofDigitChars_eq_foldl]
  congr 1
  funext n d
  rw [Nat.mul_comm]
  rfl

/-- The digits of a number begin with zero only if it is zero. -/
theorem toDigits_cases (n : Nat) : Nat.toDigits 10 n = ['0'] ∨
    ∃ c rest, Nat.toDigits 10 n = c :: rest ∧ c ≠ '0' := by
  have hdigits : ∀ m < 10, m = 0 ∨ Nat.digitChar m ≠ '0' := by decide
  induction n using Nat.strongRecOn with
  | ind n ih =>
    rw [Nat.toDigits_eq_if (by decide)]
    split
    · rename_i hsmall
      rcases hdigits n hsmall with rfl | hne
      · exact Or.inl rfl
      · exact Or.inr ⟨_, [], rfl, hne⟩
    · rename_i hlarge
      rcases ih (n / 10) (by omega) with hzero | ⟨c, rest, hdigits, hne⟩
      · have hvalue := congrArg (fun digits => Nat.ofDigitChars 10 digits 0) hzero
        rw [Nat.ofDigitChars_ten_toDigits] at hvalue
        have hvalue : n / 10 = 0 := hvalue
        omega
      · rw [hdigits]
        exact Or.inr ⟨c, _, rfl, hne⟩

theorem fraction?_of_fractionText {decimals : List Char} (h : FractionText decimals t)
    (hrest : ∀ c, rest.head? = some c → isDigit c = false ∧ c ≠ '.') :
    fraction? (t ++ rest) = if t = [] then none else some (decimals, rest) := by
  cases h with
  | none =>
    rw [if_pos rfl, List.nil_append]
    unfold fraction?
    split
    · exact absurd rfl (hrest _ rfl).2
    · rfl
  | some hdigits =>
    obtain ⟨htake, hdrop⟩ := takeWhile_isDigit hdigits.2 fun c hc => (hrest c hc).1
    rw [if_neg (List.cons_ne_nil _ _), List.cons_append]
    unfold fraction?
    simp only [htake, hdrop]
    cases decimals with
    | nil => exact absurd rfl hdigits.1
    | cons d digits => rfl

theorem signOf_digits (h : Digits digits) (rest : List Char) :
    Integer.signOf (digits ++ rest) = (false, digits ++ rest) := by
  obtain ⟨hne, hdigits⟩ := h
  cases digits with
  | nil => exact absurd rfl hne
  | cons d digits =>
    have hd := hdigits d List.mem_cons_self
    rw [List.cons_append]
    unfold Integer.signOf
    split
    · rename_i heq
      cases heq
      cases hd
    · rename_i heq
      cases heq
      cases hd
    · rfl

theorem exponent?_of_sign {e : Char} {negative : Bool} (he : e = 'e' ∨ e = 'E')
    (h : Digits digits) (hsign : Integer.signOf s = (negative, digits ++ rest))
    (hrest : Ends rest) : exponent? (e :: s) =
      some (if negative then -(Nat.ofDigitChars 10 digits 0 : Int) else Nat.ofDigitChars 10 digits 0,
        rest) := by
  obtain ⟨htake, hdrop⟩ := takeWhile_isDigit h.2 fun c hc => (hrest c hc).1
  unfold exponent?
  simp only [if_pos he, hsign, htake, hdrop, digitsValue_eq]
  cases digits with
  | nil => exact absurd rfl h.1
  | cons d digits => rfl

theorem exponent?_of_exponentText {exponent : Int} (h : ExponentText exponent t)
    (hrest : Ends rest) :
    exponent? (t ++ rest) = if t = [] then none else some (exponent, rest) := by
  cases h with
  | none =>
    rw [if_pos rfl, List.nil_append]
    unfold exponent?
    split
    · rename_i e rest
      obtain ⟨-, -, he, hE⟩ := hrest e rfl
      rw [if_neg (by simp [he, hE])]
    · rfl
  | plain he hdigits => exact exponent?_of_sign he hdigits (signOf_digits hdigits rest) hrest
  | plus he hdigits =>
    rename_i e digits
    have hsign : Integer.signOf ('+' :: (digits ++ rest)) = (false, digits ++ rest) := rfl
    exact exponent?_of_sign he hdigits hsign hrest
  | minus he hdigits =>
    rename_i e digits
    have hsign : Integer.signOf ('-' :: (digits ++ rest)) = (true, digits ++ rest) := rfl
    exact exponent?_of_sign he hdigits hsign hrest

theorem isDigit_of_mem_toDigits (h : c ∈ Nat.toDigits 10 n) : c.isDigit = true :=
  Nat.isDigit_of_mem_toDigits (by decide) (by decide) h

theorem number_of_ne_minus (hminus : c ≠ '-') (hne : c ≠ '0') (hdigit : isDigit c = true) :
    number (c :: s) =
      numberFrom false ((c :: s).takeWhile isDigit) ((c :: s).dropWhile isDigit) := by
  unfold number
  split
  rename_i negative body hbody
  split at hbody
  · rename_i heq
    cases heq
    exact absurd rfl hminus
  · cases hbody
    simp only [if_neg hne, hdigit, if_true]

theorem number_of_digits (h : Digits digits) (hzero : digits.head? ≠ some '0')
    (hrest : ∀ c, rest.head? = some c → isDigit c = false) :
    number (digits ++ rest) = numberFrom false digits rest := by
  obtain ⟨hne, hall⟩ := h
  obtain ⟨htake, hdrop⟩ := takeWhile_isDigit hall hrest
  cases digits with
  | nil => exact absurd rfl hne
  | cons c digits =>
    have hdigit : isDigit c = true := hall c List.mem_cons_self
    have hminus : c ≠ '-' := by
      rintro rfl
      cases hdigit
    rw [List.cons_append] at htake hdrop ⊢
    rw [number_of_ne_minus hminus (fun hc => hzero (congrArg some hc)) hdigit, htake, hdrop]

/-- The integer digits of a number are those in front of the first other character. -/
theorem number_eq (negative : Bool) (n : Nat)
    (hrest : ∀ c, rest.head? = some c → isDigit c = false) :
    number (sign negative ++ Nat.toDigits 10 n ++ rest) =
      numberFrom negative (Nat.toDigits 10 n) rest := by
  have hdigits : Digits (Nat.toDigits 10 n) :=
    ⟨Nat.toDigits_ne_nil, fun c hc => isDigit_of_mem_toDigits hc⟩
  rcases toDigits_cases n with hzero | ⟨c, digits, hcons, hne⟩
  · rw [hzero]
    cases negative with
    | false => rfl
    | true => rfl
  · rw [hcons] at hdigits ⊢
    cases negative with
    | false => exact number_of_digits hdigits (fun hc => hne (Option.some.inj hc)) hrest
    | true =>
      obtain ⟨htake, hdrop⟩ := takeWhile_isDigit hdigits.2 hrest
      have hdigit : isDigit c = true := hdigits.2 c List.mem_cons_self
      show number ('-' :: c :: (digits ++ rest)) = _
      unfold number
      simp only [if_neg hne, hdigit, if_true]
      rw [← List.cons_append, htake, hdrop]

theorem toList_toString (n : Int) :
    (toString n).toList = sign (n < 0) ++ Nat.toDigits 10 n.natAbs := by
  cases n with
  | ofNat n =>
    show n.repr.toList = sign (decide ((n : Int) < 0)) ++ _
    rw [Nat.toList_repr, decide_eq_false (by omega)]
    rfl
  | negSucc n =>
    show ("-" ++ (n + 1).repr).toList = sign (decide (Int.negSucc n < 0)) ++ _
    rw [String.toList_append, Nat.toList_repr, decide_eq_true (Int.negSucc_lt_zero n)]
    rfl

/-- What follows the integer digits of a number that ends there. -/
theorem numberFrom_of_ends (negative : Bool) (hrest : Ends rest) :
    numberFrom negative whole rest =
      if Integer.maxDigits < whole.length then .error (.tooManyDigits whole.length)
      else .ok (.int (if negative then -(Nat.ofDigitChars 10 whole 0 : Int)
        else Nat.ofDigitChars 10 whole 0), rest) := by
  have hfraction := fraction?_of_fractionText .none fun c hc => ⟨(hrest c hc).1, (hrest c hc).2.1⟩
  have hexponent := exponent?_of_exponentText .none hrest
  rw [List.nil_append, if_pos rfl] at hfraction hexponent
  unfold numberFrom
  simp only [hfraction, hexponent, Bool.or_self, Bool.false_eq_true, if_false, digitsValue_eq]

theorem number_of_int {n : Int} (h : (Nat.toDigits 10 n.natAbs).length ≤ Integer.maxDigits)
    (hrest : Ends rest) : number ((toString n).toList ++ rest) = .ok (.int n, rest) := by
  have hsigned : (if decide (n < 0) = true then -(n.natAbs : Int) else n.natAbs) = n := by
    simp only [decide_eq_true_eq]
    split <;> omega
  rw [toList_toString, number_eq _ _ fun c hc => (hrest c hc).1, numberFrom_of_ends _ hrest,
    if_neg (Nat.not_lt.mpr h), Nat.ofDigitChars_ten_toDigits, hsigned]

theorem head?_of_fractionText {decimals : List Char} (h : FractionText decimals t)
    (hc : t.head? = some c) : c = '.' := by
  cases h with
  | none => cases hc
  | some => cases hc; rfl

theorem head?_of_exponentText {exponent : Int} (h : ExponentText exponent t)
    (hc : t.head? = some c) : c = 'e' ∨ c = 'E' := by
  cases h with
  | none => cases hc
  | plain he => cases hc; exact he
  | plus he => cases hc; exact he
  | minus he => cases hc; exact he

theorem head?_append_cases (h : (s ++ t).head? = some c) :
    s.head? = some c ∨ t.head? = some c := by
  cases s with
  | nil => exact Or.inr h
  | cons d s => exact Or.inl h

theorem number_of_floatText {x : Binary64} (h : FloatText x t) (hrest : Ends rest) :
    number (t ++ rest) = .ok (.float x, rest) := by
  obtain ⟨hfraction, hpower, hfloat⟩ := h
  rename_i negative n decimals fraction power exponent
  have hends : ∀ c, (power ++ rest).head? = some c → isDigit c = false ∧ c ≠ '.' := by
    intro c hc
    rcases head?_append_cases hc with hc | hc
    · rcases head?_of_exponentText hpower hc with rfl | rfl
      · decide
      · decide
    · exact ⟨(hrest c hc).1, (hrest c hc).2.1⟩
  have hdigits : ∀ c, (fraction ++ (power ++ rest)).head? = some c → isDigit c = false := by
    intro c hc
    rcases head?_append_cases hc with hc | hc
    · rw [head?_of_fractionText hfraction hc]
      decide
    · exact (hends c hc).1
  rw [List.append_assoc, List.append_assoc, number_eq _ _ hdigits]
  unfold numberFrom
  rw [fraction?_of_fractionText hfraction hends]
  cases hfraction with
  | none =>
    have hraised : power ≠ [] := fun hpower => hfloat (by rw [hpower, List.nil_append])
    simp only [if_true, List.nil_append, exponent?_of_exponentText hpower hrest, if_neg hraised,
      Bool.false_or, digitsValue_eq]
  | some hdigits =>
    have hpointed : '.' :: decimals ≠ [] := List.cons_ne_nil _ _
    simp only [if_neg hpointed, exponent?_of_exponentText hpower hrest, Bool.true_or, if_true,
      digitsValue_eq]
    cases hpower with
    | none => rfl
    | plain => rfl
    | plus => rfl
    | minus => rfl

/-! ## Tokens -/

theorem word?_of_isDigit (h : isDigit c = true) (s : List Char) :
    word? (c :: s) = none ∧ word? ('-' :: c :: s) = none := by
  have hne : ∀ d, isDigit d = false → (d == c) = false := by
    intro d hd
    refine beq_false_of_ne ?_
    rintro rfl
    rw [hd] at h
    cases h
  simp [word?, words, List.find?, List.isPrefixOf, hne 'n' rfl, hne 't' rfl, hne 'f' rfl,
    hne 'N' rfl, hne 'I' rfl, hne '-' rfl]

theorem isBlank_iff : isBlank c = true ↔ c = ' ' ∨ c = '\t' ∨ c = '\n' ∨ c = '\r' := by
  simp [isBlank, or_assoc]

theorem skipBlanks_append {b : List Char} (hb : Blanks b)
    (hs : ∀ c, s.head? = some c → isBlank c = false) : skipBlanks (b ++ s) = s := by
  have hb : ∀ c ∈ b, isBlank c = true := fun c hc => isBlank_iff.mpr (hb c hc)
  rw [skipBlanks, List.dropWhile_append_of_pos hb]
  cases s with
  | nil => rfl
  | cons c s => exact List.dropWhile_cons_of_neg (Bool.eq_false_iff.mp (hs c rfl))

theorem skipBlanks_append_cons {b : List Char} (hb : Blanks b) (hc : isBlank c = false) :
    skipBlanks (b ++ c :: s) = c :: s :=
  skipBlanks_append hb fun d hd => by cases hd; exact hc

theorem ends_of_blanks {b : List Char} (hb : Blanks b) : Ends b := by
  intro c hc
  rcases hb c (List.mem_of_mem_head? hc) with rfl | rfl | rfl | rfl
  all_goals decide

/-- A number ends in front of blanks and a delimiter. -/
theorem ends_append_cons {b : List Char} (hb : Blanks b) (hc : c = ',' ∨ c = ']' ∨ c = '\x7d') :
    Ends (b ++ c :: s) := by
  intro d hd
  rcases head?_append_cases hd with hd | hd
  · exact ends_of_blanks hb d hd
  · cases hd
    rcases hc with rfl | rfl | rfl
    all_goals decide

end ApiClient.Json
