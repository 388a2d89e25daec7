import Mathlib.Data.List.Basic
import Mathlib.Data.List.TakeWhile
import Mathlib.Tactic.SplitIfs
import ApiClient.Http.Headers
import ApiClient.Proofs.Text.Utf8
import ApiClient.Text.Base64

/-!
# ASCII texts

An ASCII text has the same bytes in every character set of header fields, and every character set
reads the text back from them.
-/

namespace ApiClient

/-- Whether a text has only ASCII characters. -/
def IsAscii (s : String) : Prop :=
  ∀ c ∈ s.toList, c.toNat < 0x80

-- by the members of the list, not by all characters there are
instance (s : String) : Decidable (IsAscii s) :=
  List.decidableBAll (fun c : Char => c.toNat < 0x80) s.toList

/-- Whether a run of bytes has only ASCII characters. -/
def AsciiBytes (bytes : List UInt8) : Prop :=
  ∀ b ∈ bytes, b < 0x80

instance (bytes : List UInt8) : Decidable (AsciiBytes bytes) :=
  List.decidableBAll (fun b : UInt8 => b < 0x80) bytes

variable {s t : String} {bytes : List UInt8}

theorem IsAscii.append (hs : IsAscii s) (ht : IsAscii t) : IsAscii (s ++ t) := by
  intro c hc
  rw [String.toList_append, List.mem_append] at hc
  exact hc.elim (hs c) (ht c)

theorem isAscii_toString (n : Nat) : IsAscii (toString n) := by
  intro c hc
  have hdigits : c ∈ Nat.toDigits 10 n := by
    rwa [Nat.toString_eq_ofList_toDigits, String.toList_ofList] at hc
  have hdigit := Nat.isDigit_of_mem_toDigits (by decide) (by decide) hdigits
  rw [Char.isDigit_iff_toNat] at hdigit
  exact Nat.lt_of_le_of_lt hdigit.2 (by decide)

/-! ## Base64 -/

theorem toNat_ofNat_of_lt {n : Nat} (h : n < 0x80) : (Char.ofNat n).toNat = n :=
  Text.Utf8.toNat_ofNat_of_valid (Or.inl (by omega))

theorem Text.Base64.digit_spec (n : Nat) :
    (digit n).toNat < 0x80 ∧ digit n ≠ '"' := by
  have hmark : ∀ m, 0x22 < m → m < 0x80 → Char.ofNat m ≠ '"' := by
    intro m hlow hhigh h
    have := congrArg Char.toNat h
    rw [toNat_ofNat_of_lt hhigh] at this
    exact absurd this (Nat.ne_of_gt hlow)
  unfold digit
  split_ifs with h₁ h₂ h₃ h₄
  · exact ⟨by rw [toNat_ofNat_of_lt (by omega)]; omega, hmark _ (by omega) (by omega)⟩
  · exact ⟨by rw [toNat_ofNat_of_lt (by omega)]; omega, hmark _ (by omega) (by omega)⟩
  · exact ⟨by rw [toNat_ofNat_of_lt (by omega)]; omega, hmark _ (by omega) (by omega)⟩
  · decide
  · decide

/-- The Base64 form of bytes is ASCII and has no quotation mark. -/
theorem Text.Base64.encodeChars_spec (bytes : List UInt8) :
    ∀ c ∈ encodeChars bytes, c.toNat < 0x80 ∧ c ≠ '"' := by
  have hpad : '='.toNat < 0x80 ∧ '=' ≠ '"' := by decide
  induction bytes using encodeChars.induct with
  | case1 => simp [encodeChars]
  | case2 a => simp [encodeChars, digit_spec, hpad]
  | case3 a b => simp [encodeChars, digit_spec, hpad]
  | case4 a b c rest ih => simpa [encodeChars, digit_spec] using ih

theorem Text.Base64.isAscii_encode (bytes : List UInt8) : IsAscii (encode bytes) := by
  intro c hc
  rw [encode, String.toList_ofList] at hc
  exact (encodeChars_spec bytes c hc).1

theorem Text.Base64.mark_not_mem_encode (bytes : List UInt8) : '"' ∉ (encode bytes).toList := by
  intro hmark
  rw [encode, String.toList_ofList] at hmark
  exact (encodeChars_spec bytes _ hmark).2 rfl

/-! ## Character sets -/

theorem asciiBytes_of_isAscii (hs : IsAscii s) : AsciiBytes (Headers.asciiBytes s) := by
  intro b hb
  obtain ⟨c, hc, rfl⟩ := List.mem_map.mp hb
  have := hs c hc
  rw [UInt8.lt_iff_toNat_lt, UInt8.toNat_ofNat]
  show c.toNat % 256 < 0x80
  omega

theorem utf8EncodeChar_of_ascii {c : Char} (hc : c.toNat < 0x80) :
    String.utf8EncodeChar c = [UInt8.ofNat c.toNat] := by
  have hle : c.val.toNat ≤ 0x7f := Nat.le_of_lt_succ hc
  simp only [String.utf8EncodeChar, if_pos hle]
  rfl

/-- Every character set has the same bytes for an ASCII text. -/
theorem Charset.encode_of_isAscii (set : Charset) (hs : IsAscii s) :
    set.encode s.toList = .ok (Headers.asciiBytes s) := by
  have hbelow : ∀ (encoding : Text.Encoding) (limit : Nat), 0x80 ≤ limit →
      Text.encodeBelow encoding limit s.toList = .ok (Headers.asciiBytes s) := by
    intro encoding limit hlimit
    have hall : s.toList.dropWhile (fun c => decide (c.toNat < limit)) = [] := by
      rw [List.dropWhile_eq_nil_iff]
      intro c hc
      exact decide_eq_true (Nat.lt_of_lt_of_le (hs c hc) hlimit)
    simp only [Text.encodeBelow, hall, Headers.asciiBytes]
  cases set with
  | ascii => exact hbelow _ _ (by omega)
  | latin1 => exact hbelow _ _ (by omega)
  | utf8 =>
    show Except.ok (s.toList.flatMap String.utf8EncodeChar) = _
    rw [List.flatMap_congr fun c hc => utf8EncodeChar_of_ascii (hs c hc), Headers.asciiBytes,
      List.map_eq_flatMap]

theorem isAscii_of_encode (h : Charset.ascii.encode s.toList = .ok bytes) : IsAscii s := by
  have h : Text.encodeBelow .ascii 0x80 s.toList = .ok bytes := h
  unfold Text.encodeBelow at h
  split at h
  · rename_i hall
    rw [List.dropWhile_eq_nil_iff] at hall
    exact fun c hc => of_decide_eq_true (hall c hc)
  · cases h

theorem Text.Utf8.decodeLenient_of_ascii (hbytes : AsciiBytes bytes) :
    decodeLenient bytes = bytes.map fun b => Char.ofNat b.toNat := by
  induction bytes with
  | nil => rw [decodeLenient]; rfl
  | cons b rest ih =>
    obtain ⟨hb, hrest⟩ := List.forall_mem_cons.mp hbytes
    rw [decodeLenient, Text.Utf8.head.eq_def, if_pos hb]
    show Char.ofNat b.toNat :: decodeLenient rest = _
    rw [ih hrest, List.map_cons]

/-- Every character set reads the same text from ASCII bytes. -/
theorem Charset.decode_of_ascii (set : Charset) (hbytes : AsciiBytes bytes) :
    set.decode bytes = bytes.map fun b => Char.ofNat b.toNat := by
  cases set with
  | ascii => rfl
  | latin1 => rfl
  | utf8 => exact Text.Utf8.decodeLenient_of_ascii hbytes

/-- Every character set reads an ASCII text back from its bytes. -/
theorem Charset.decode_asciiBytes (set : Charset) (hs : IsAscii s) :
    String.ofList (set.decode (Headers.asciiBytes s)) = s := by
  rw [set.decode_of_ascii (asciiBytes_of_isAscii hs), Headers.asciiBytes, List.map_map]
  have hsame : s.toList.map ((fun b : UInt8 => Char.ofNat b.toNat) ∘ fun c => UInt8.ofNat c.toNat) =
      s.toList := by
    refine (List.map_congr_left fun c hc => ?_).trans (List.map_id _)
    have hlt : c.toNat < 256 := Nat.lt_trans (hs c hc) (by decide)
    show Char.ofNat (UInt8.ofNat c.toNat).toNat = c
    rw [UInt8.toNat_ofNat_of_lt' hlt, Char.ofNat_toNat]
  rw [hsame, String.ofList_toList]

/-- What is read from ASCII bytes is an ASCII text with these bytes. -/
theorem Charset.asciiBytes_decode (set : Charset) (hbytes : AsciiBytes bytes) :
    IsAscii (String.ofList (set.decode bytes)) ∧
      Headers.asciiBytes (String.ofList (set.decode bytes)) = bytes := by
  have hnat : ∀ b ∈ bytes, (Char.ofNat b.toNat).toNat = b.toNat :=
    fun b hb => toNat_ofNat_of_lt (UInt8.lt_iff_toNat_lt.mp (hbytes b hb))
  rw [set.decode_of_ascii hbytes]
  constructor
  · intro c hc
    rw [String.toList_ofList] at hc
    obtain ⟨b, hb, rfl⟩ := List.mem_map.mp hc
    rw [hnat b hb]
    exact UInt8.lt_iff_toNat_lt.mp (hbytes b hb)
  · rw [Headers.asciiBytes, String.toList_ofList, List.map_map]
    refine (List.map_congr_left fun b hb => ?_).trans (List.map_id _)
    show UInt8.ofNat (Char.ofNat b.toNat).toNat = b
    rw [hnat b hb, UInt8.ofNat_toNat]

/-! ## Letter case -/

theorem Text.lower_of_isAscii (hs : IsAscii s) : (lower s).toList = s.toList.map Char.toLower := by
  have hfrom : ∀ (chars before : List Char), (∀ c ∈ chars, c.toNat < 0x80) →
      lowerFrom before chars = chars.map Char.toLower := by
    intro chars
    induction chars with
    | nil => intro before _; rfl
    | cons c rest ih =>
      intro before h
      obtain ⟨hc, hrest⟩ := List.forall_mem_cons.mp h
      rw [lowerFrom, lowerChar, if_pos hc, ih _ hrest]
      rfl
  rw [lower, String.toList_ofList, hfrom _ _ hs]

theorem toLower_of_ascii {c : Char} (hc : c.toNat < 0x80) : c.toLower.toNat < 0x80 ∧
    UInt8.ofNat c.toLower.toNat = asciiLower (UInt8.ofNat c.toNat) := by
  have hall : ∀ n < 0x80, (Char.ofNat n).toLower.toNat < 0x80 ∧
      UInt8.ofNat (Char.ofNat n).toLower.toNat = asciiLower (UInt8.ofNat n) := by
    decide
  have h := hall c.toNat hc
  rwa [Char.ofNat_toNat] at h

theorem Text.isAscii_lower (hs : IsAscii s) : IsAscii (lower s) := by
  intro c hc
  rw [lower_of_isAscii hs] at hc
  obtain ⟨d, hd, rfl⟩ := List.mem_map.mp hc
  exact (toLower_of_ascii (hs d hd)).1

theorem asciiBytes_lower (hs : IsAscii s) :
    Headers.asciiBytes (Text.lower s) = (Headers.asciiBytes s).map asciiLower := by
  rw [Headers.asciiBytes, Headers.asciiBytes, Text.lower_of_isAscii hs, List.map_map, List.map_map]
  exact List.map_congr_left fun c hc => (toLower_of_ascii (hs c hc)).2

/-! ## Bytes that are texts -/

theorem Text.Utf8.encode_of_ascii (hbytes : AsciiBytes bytes) :
    encode (bytes.map fun b => Char.ofNat b.toNat) = bytes := by
  induction bytes with
  | nil => rfl
  | cons b rest ih =>
    obtain ⟨hb, hrest⟩ := List.forall_mem_cons.mp hbytes
    have hnat : (Char.ofNat b.toNat).toNat = b.toNat :=
      toNat_ofNat_of_lt (UInt8.lt_iff_toNat_lt.mp hb)
    have hchar : String.utf8EncodeChar (Char.ofNat b.toNat) = [b] := by
      rw [utf8EncodeChar_of_ascii (by rw [hnat]; exact UInt8.lt_iff_toNat_lt.mp hb), hnat,
        UInt8.ofNat_toNat]
    have ih : (rest.map fun b => Char.ofNat b.toNat).flatMap String.utf8EncodeChar = rest :=
      ih hrest
    rw [encode, List.map_cons, List.flatMap_cons, hchar, ih]
    rfl

theorem Charset.covers_of_ascii (set : Charset) (hbytes : AsciiBytes bytes) :
    set.covers bytes = true := by
  cases set with
  | ascii => exact List.all_eq_true.mpr fun b hb => decide_eq_true (hbytes b hb)
  | latin1 => rfl
  | utf8 =>
    show (Text.Utf8.decode bytes).toBool = true
    rw [← Text.Utf8.encode_of_ascii hbytes, Text.Utf8.decode_encode]
    rfl

theorem Charset.covers_ascii_iff : Charset.ascii.covers bytes = true ↔ AsciiBytes bytes := by
  simp [Charset.covers, AsciiBytes]

/-- A text that begins with an ASCII character begins with the byte of that character. -/
theorem Charset.head?_encode {set : Charset} {first : Char} {chars : List Char}
    (hascii : first.toNat < 0x80) (hfirst : chars.head? = some first)
    (h : set.encode chars = .ok bytes) : bytes.head? = some (UInt8.ofNat first.toNat) := by
  obtain ⟨rest, rfl⟩ : ∃ rest, chars = first :: rest := List.head?_eq_some_iff.mp hfirst
  cases set with
  | utf8 =>
    cases h
    rw [Text.Utf8.encode, List.flatMap_cons, utf8EncodeChar_of_ascii hascii]
    rfl
  | ascii => rw [(Charset.below_of_encodeBelow h).2]; rfl
  | latin1 => rw [(Charset.below_of_encodeBelow h).2]; rfl

end ApiClient
