import ApiClient.Proofs.Text.Ascii

/-!
# Base64 round trip

The bytes that have been written in Base64 are read back, so no two byte strings have one text.
-/

namespace ApiClient.Text.Base64

theorem value?_digit {n : Nat} (h : n < 64) : value? (digit n) = some n := by
  have hall : ∀ m : Fin 64, value? (digit m) = some m.val := by decide
  exact hall ⟨n, h⟩

theorem value?_pad : value? '=' = none := by decide

/-- The first byte of three is in the first value and the upper bits of the second. -/
theorem ofNat_first (a : UInt8) (n : Nat) (h : n < 16) :
    UInt8.ofNat (a.toNat / 4 * 4 + (a.toNat % 4 * 16 + n) / 16) = a := by
  have hn : a.toNat / 4 * 4 + (a.toNat % 4 * 16 + n) / 16 = a.toNat := by omega
  rw [hn, UInt8.ofNat_toNat]

/-- The second byte of three is in the lower bits of the second value and the upper bits of the
third. -/
theorem ofNat_second (a b : UInt8) (n : Nat) (h : n < 4) :
    UInt8.ofNat ((a.toNat % 4 * 16 + b.toNat / 16) % 16 * 16 + (b.toNat % 16 * 4 + n) / 4) = b := by
  have hb := b.toNat_lt
  have hn : (a.toNat % 4 * 16 + b.toNat / 16) % 16 * 16 + (b.toNat % 16 * 4 + n) / 4 =
      b.toNat := by omega
  rw [hn, UInt8.ofNat_toNat]

/-- The third byte of three is in the lower bits of the third value and the fourth one. -/
theorem ofNat_third (b c : UInt8) :
    UInt8.ofNat ((b.toNat % 16 * 4 + c.toNat / 64) % 4 * 64 + c.toNat % 64) = c := by
  have hc := c.toNat_lt
  have hn : (b.toNat % 16 * 4 + c.toNat / 64) % 4 * 64 + c.toNat % 64 = c.toNat := by omega
  rw [hn, UInt8.ofNat_toNat]

theorem join_filterMap_encodeChars (bytes : List UInt8) :
    join ((encodeChars bytes).filterMap value?) = bytes := by
  induction bytes using encodeChars.induct with
  | case1 => rfl
  | case2 a =>
    have ha := a.toNat_lt
    rw [encodeChars]
    simp only [List.filterMap_cons, value?_digit (show a.toNat / 4 < 64 by omega),
      value?_digit (show a.toNat % 4 * 16 < 64 by omega), value?_pad, List.filterMap_nil, join]
    exact congrArg ([·]) (ofNat_first a 0 (by omega))
  | case3 a b =>
    have ha := a.toNat_lt
    have hb := b.toNat_lt
    rw [encodeChars]
    simp only [List.filterMap_cons, value?_digit (show a.toNat / 4 < 64 by omega),
      value?_digit (show a.toNat % 4 * 16 + b.toNat / 16 < 64 by omega),
      value?_digit (show b.toNat % 16 * 4 < 64 by omega), value?_pad, List.filterMap_nil, join,
      ofNat_first a _ (show b.toNat / 16 < 16 by omega)]
    exact congrArg ([a, ·]) (ofNat_second a b 0 (by omega))
  | case4 a b c rest ih =>
    have ha := a.toNat_lt
    have hb := b.toNat_lt
    have hc := c.toNat_lt
    rw [encodeChars]
    simp only [List.filterMap_cons, value?_digit (show a.toNat / 4 < 64 by omega),
      value?_digit (show a.toNat % 4 * 16 + b.toNat / 16 < 64 by omega),
      value?_digit (show b.toNat % 16 * 4 + c.toNat / 64 < 64 by omega),
      value?_digit (show c.toNat % 64 < 64 by omega), join,
      ofNat_first a _ (show b.toNat / 16 < 16 by omega),
      ofNat_second a b _ (show c.toNat / 64 < 4 by omega), ofNat_third b c, ih]

theorem decode_encode (bytes : List UInt8) : decode (encode bytes) = bytes := by
  rw [decode, encode, String.toList_ofList, join_filterMap_encodeChars]

theorem encode_injective : Function.Injective encode :=
  Function.LeftInverse.injective decode_encode

end ApiClient.Text.Base64
