import ApiClient.Proofs.Text.Base64
import ApiClient.Text.Case
import ApiClient.Time.HttpDate

/-!
# Lines

A text without a line break is one line, and lines that are joined by line breaks can be told apart
again.
-/

namespace ApiClient

/-- Whether a text has no line break. -/
def IsLine (s : String) : Prop :=
  '\n' ∉ s.toList

instance (s : String) : Decidable (IsLine s) :=
  inferInstanceAs (Decidable ('\n' ∉ s.toList))

variable {s t : String} {lines others : List String}

theorem IsLine.append (hs : IsLine s) (ht : IsLine t) : IsLine (s ++ t) := by
  rw [IsLine, String.toList_append, List.mem_append, not_or]
  exact ⟨hs, ht⟩

theorem eq_of_intercalate_eq (hlines : ∀ s ∈ lines, IsLine s) (hothers : ∀ s ∈ others, IsLine s)
    (hne : lines ≠ []) (hne' : others ≠ [])
    (h : "\n".intercalate lines = "\n".intercalate others) : lines = others := by
  have hsplit := String.toList_split_intercalate hlines
  have hsplit' := String.toList_split_intercalate hothers
  rw [if_neg hne] at hsplit
  rw [if_neg hne'] at hsplit'
  have h : (String.singleton '\n').intercalate lines =
    (String.singleton '\n').intercalate others := h
  rw [← hsplit, ← hsplit', h]

theorem isLine_toString (n : Nat) : IsLine (toString n) := by
  intro hbreak
  rw [Nat.toString_eq_ofList_toDigits, String.toList_ofList] at hbreak
  exact absurd (Nat.isDigit_of_mem_toDigits (by decide) (by decide) hbreak) (by decide)

theorem eq_of_toString_eq {m n : Nat} (h : toString m = toString n) : m = n := by
  rw [Nat.toString_eq_ofList_toDigits, Nat.toString_eq_ofList_toDigits, String.ofList_inj] at h
  have hnumbers := congrArg (fun digits => Nat.ofDigitChars 10 digits 0) h
  simpa only [Nat.ofDigitChars_ten_toDigits] using hnumbers

namespace Text

/-! ## Base64 -/

theorem Base64.digit_ne_break (n : Nat) : digit n ≠ '\n' := by
  intro hbreak
  by_cases hn : n < 64
  · have hvalue := value?_digit hn
    rw [hbreak] at hvalue
    cases hvalue
  · have hlast : digit n = '/' := by
      rw [digit, if_neg (by omega), if_neg (by omega), if_neg (by omega), if_neg (by omega)]
    rw [hlast] at hbreak
    cases hbreak

theorem Base64.isLine_encode (bytes : List UInt8) : IsLine (encode bytes) := by
  have hchars : ∀ c ∈ encodeChars bytes, c ≠ '\n' := by
    have hpad : '=' ≠ '\n' := by decide
    induction bytes using encodeChars.induct with
    | case1 => simp [encodeChars]
    | case2 a => simp [encodeChars, digit_ne_break, hpad]
    | case3 a b => simp [encodeChars, digit_ne_break, hpad]
    | case4 a b c rest ih => simpa [encodeChars, digit_ne_break] using ih
  intro hbreak
  rw [encode, String.toList_ofList] at hbreak
  exact hchars _ hbreak rfl

/-! ## Lower case -/

variable {c d : Char} {before after chars : List Char}

theorem eq_of_toLower (hascii : c.toNat < 0x80) (h : c.toLower.toNat ≤ 0x20) : c.toLower = c := by
  have hall : ∀ n < 0x80, (Char.ofNat n).toLower.toNat ≤ 0x20 →
      (Char.ofNat n).toLower = Char.ofNat n := by decide
  have hc := hall c.toNat hascii
  rw [Char.ofNat_toNat] at hc
  exact hc h

/-- The table maps to no character up to the blank, except that NUL stands for what is none. -/
theorem eq_of_mapByRows (hpos : 0 < (mapByRows lowerRows c).toNat)
    (h : (mapByRows lowerRows c).toNat ≤ 0x20) : mapByRows lowerRows c = c := by
  have hrows : ∀ row ∈ lowerRows, 0x20 < (row.1 : Int) + row.2.2.2 := by
    decide +kernel
  unfold mapByRows at hpos h ⊢
  split at h
  · rename_i first last step offset hfind
    simp only [hfind] at hpos
    have hrow := hrows _ (List.mem_of_find?_eq_some hfind)
    have hfirst := List.find?_some hfind
    simp only [Bool.and_eq_true, decide_eq_true_eq] at hrow hfirst
    by_cases hvalid : ((c.toNat : Int) + offset).toNat.isValidChar
    · rw [Utf8.toNat_ofNat_of_valid hvalid] at h
      omega
    · have hnul : Char.ofNat ((c.toNat : Int) + offset).toNat = Char.ofNat 0 := dif_neg hvalid
      rw [hnul] at hpos
      exact absurd hpos (by decide)
  · rfl

/-- A character up to the blank, but NUL, is in the lower case of that character only. -/
theorem mem_lowerChar (hd : 0 < d.toNat ∧ d.toNat ≤ 0x20) (h : d ∈ lowerChar before c after) :
    d = c := by
  obtain ⟨hpos, hle⟩ := hd
  unfold lowerChar at h
  split_ifs at h with hascii hsigma hfinal hdotted
  · obtain rfl := List.mem_singleton.mp h
    exact eq_of_toLower hascii hle
  · obtain rfl := List.mem_singleton.mp h
    exact absurd hle (by decide)
  · obtain rfl := List.mem_singleton.mp h
    exact absurd hle (by decide)
  · simp only [List.mem_cons, List.not_mem_nil, or_false] at h
    rcases h with rfl | rfl
    · exact absurd hle (by decide)
    · exact absurd hle (by decide)
  · obtain rfl := List.mem_singleton.mp h
    exact eq_of_mapByRows hpos hle

theorem mem_of_mem_lower (hd : 0 < d.toNat ∧ d.toNat ≤ 0x20) (h : d ∈ (lower s).toList) :
    d ∈ s.toList := by
  have hfrom : ∀ (chars before : List Char), d ∈ lowerFrom before chars → d ∈ chars := by
    intro chars
    induction chars with
    | nil => intro before h; cases h
    | cons c rest ih =>
      intro before h
      rcases List.mem_append.mp h with h | h
      · obtain rfl := mem_lowerChar hd h
        exact List.mem_cons_self
      · exact List.mem_cons_of_mem _ (ih _ h)
  rw [lower, String.toList_ofList] at h
  exact hfrom _ _ h

theorem isLine_lower (hs : IsLine s) : IsLine (lower s) :=
  fun h => hs (mem_of_mem_lower (by decide) h)

end Text

/-! ## Dates -/

namespace HttpDate

/-- Whether a text has only printable ASCII characters. -/
def IsPrintable (s : String) : Prop :=
  ∀ c ∈ s.toList, 0x20 ≤ c.toNat ∧ c.toNat < 0x7F

instance (s : String) : Decidable (IsPrintable s) :=
  List.decidableBAll (fun c : Char => 0x20 ≤ c.toNat ∧ c.toNat < 0x7F) s.toList

theorem IsPrintable.append (hs : IsPrintable s) (ht : IsPrintable t) : IsPrintable (s ++ t) := by
  intro c hc
  rw [String.toList_append, List.mem_append] at hc
  exact hc.elim (hs c) (ht c)

theorem isPrintable_padded (width n : Nat) : IsPrintable (padded width n) := by
  intro c hc
  rw [padded, String.toList_ofList] at hc
  rcases List.mem_append.mp hc with hc | hc
  · rw [List.eq_of_mem_replicate hc]
    decide
  · have hdigit := Nat.isDigit_of_mem_toDigits (by decide) (by decide) hc
    rw [Char.isDigit_iff_toNat] at hdigit
    have hbelow : 0x20 ≤ '0'.toNat ∧ '9'.toNat < 0x7F := by decide
    omega

theorem isPrintable_getD {names : List String} (h : ∀ s ∈ names, IsPrintable s) (i : Nat) :
    IsPrintable (names.getD i "") := by
  rw [List.getD_eq_getElem?_getD]
  cases hi : names[i]? with
  | none => exact (by decide : IsPrintable "")
  | some name => exact h name (List.mem_of_getElem? hi)

theorem isPrintable_of_ofSeconds {now : Int} {date : String} (h : ofSeconds now = .ok date) :
    IsPrintable date := by
  unfold ofSeconds at h
  simp only at h
  split_ifs at h
  obtain rfl := Except.ok.inj h
  have hday := isPrintable_getD (show ∀ s ∈ weekdays, IsPrintable s by decide)
  have hmonth := isPrintable_getD (show ∀ s ∈ months, IsPrintable s by decide)
  have hnumber := isPrintable_padded
  have hcomma : IsPrintable ", " := by decide
  have hblank : IsPrintable " " := by decide
  have hcolon : IsPrintable ":" := by decide
  have hzone : IsPrintable " GMT" := by decide
  exact ((((((((((((hday _).append hcomma).append (hnumber _ _)).append hblank).append
    (hmonth _)).append hblank).append (hnumber _ _)).append hblank).append
    (hnumber _ _)).append hcolon).append (hnumber _ _)).append hcolon).append
    (hnumber _ _) |>.append hzone

/-- The date of a second is one line. -/
theorem isLine_of_ofSeconds {now : Int} {date : String} (h : ofSeconds now = .ok date) :
    IsLine date := fun hbreak => absurd (isPrintable_of_ofSeconds h _ hbreak) (by decide)

theorem isAscii_of_ofSeconds {now : Int} {date : String} (h : ofSeconds now = .ok date) :
    IsAscii date := fun c hc => (isPrintable_of_ofSeconds h c hc).2.trans (by decide)

end HttpDate

end ApiClient
