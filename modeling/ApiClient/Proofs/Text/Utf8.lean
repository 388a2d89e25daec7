import ApiClient.Text.Utf8

/-!
# UTF-8 round trips

What a text is written as is read back as that text. Strict and lenient reading agree on bytes that
are a text.
-/

namespace ApiClient.Text.Utf8

theorem toNat_ofNat_of_valid {n : Nat} (h : n.isValidChar) : (Char.ofNat n).toNat = n := by
  have hchar : Char.ofNat n = Char.ofNatAux n h := dif_pos h
  rw [hchar]
  rfl

/-! ## Characters of each length -/

theorem isContinuation_iff {b : UInt8} :
    isContinuation b = true ↔ 0x80 ≤ b.toNat ∧ b.toNat < 0xC0 := by
  simp [isContinuation, UInt8.le_iff_toNat_le, UInt8.lt_iff_toNat_lt]

theorem continues_iff {lead b : UInt8} : continues lead b = true ↔
    (0x80 ≤ b.toNat ∧ b.toNat < 0xC0) ∧ (lead.toNat = 0xE0 → 0xA0 ≤ b.toNat) ∧
      (lead.toNat = 0xED → b.toNat < 0xA0) ∧ (lead.toNat = 0xF0 → 0x90 ≤ b.toNat) ∧
      (lead.toNat = 0xF4 → b.toNat < 0x90) := by
  unfold continues
  rw [Bool.and_eq_true, isContinuation_iff]
  refine and_congr_right fun _ => ?_
  have heq : ∀ n : UInt8, lead = n ↔ lead.toNat = n.toNat := fun n => UInt8.toNat_inj.symm
  (repeat' split) <;>
    simp only [heq, UInt8.reduceToNat] at * <;>
    simp [UInt8.le_iff_toNat_le, UInt8.lt_iff_toNat_lt] <;> omega

theorem head_two {b b₁ : UInt8} (hb : 0xC2 ≤ b.toNat ∧ b.toNat < 0xE0)
    (h₁ : isContinuation b₁ = true) (rest : List UInt8) :
    head b (b₁ :: rest) = .char (Char.ofNat (b.toNat % 32 * 64 + b₁.toNat % 64)) 2 := by
  have hascii : ¬ b < 0x80 := by rw [UInt8.lt_iff_toNat_lt]; simp; omega
  have hstart : ¬ b < 0xC2 := by rw [UInt8.lt_iff_toNat_lt]; simp; omega
  have htwo : b < 0xE0 := by rw [UInt8.lt_iff_toNat_lt]; simp; omega
  simp only [head, hascii, hstart, htwo, h₁, if_true, if_false, payload]

theorem head_three {b b₁ b₂ : UInt8} (hb : 0xE0 ≤ b.toNat ∧ b.toNat < 0xF0)
    (h₁ : continues b b₁ = true) (h₂ : isContinuation b₂ = true) (rest : List UInt8) :
    head b (b₁ :: b₂ :: rest) =
      .char (Char.ofNat ((b.toNat % 16 * 64 + b₁.toNat % 64) * 64 + b₂.toNat % 64)) 3 := by
  have hascii : ¬ b < 0x80 := by rw [UInt8.lt_iff_toNat_lt]; simp; omega
  have hstart : ¬ b < 0xC2 := by rw [UInt8.lt_iff_toNat_lt]; simp; omega
  have htwo : ¬ b < 0xE0 := by rw [UInt8.lt_iff_toNat_lt]; simp; omega
  have hthree : b < 0xF0 := by rw [UInt8.lt_iff_toNat_lt]; simp; omega
  simp only [head, hascii, hstart, htwo, hthree, h₁, h₂, if_true, if_false, payload, Bool.not_true,
    Bool.false_eq_true]

theorem head_four {b b₁ b₂ b₃ : UInt8} (hb : 0xF0 ≤ b.toNat ∧ b.toNat < 0xF5)
    (h₁ : continues b b₁ = true) (h₂ : isContinuation b₂ = true) (h₃ : isContinuation b₃ = true)
    (rest : List UInt8) :
    head b (b₁ :: b₂ :: b₃ :: rest) = .char (Char.ofNat
      (((b.toNat % 8 * 64 + b₁.toNat % 64) * 64 + b₂.toNat % 64) * 64 + b₃.toNat % 64)) 4 := by
  have hascii : ¬ b < 0x80 := by rw [UInt8.lt_iff_toNat_lt]; simp; omega
  have hstart : ¬ b < 0xC2 := by rw [UInt8.lt_iff_toNat_lt]; simp; omega
  have htwo : ¬ b < 0xE0 := by rw [UInt8.lt_iff_toNat_lt]; simp; omega
  have hthree : ¬ b < 0xF0 := by rw [UInt8.lt_iff_toNat_lt]; simp; omega
  have hfour : b < 0xF5 := by rw [UInt8.lt_iff_toNat_lt]; simp; omega
  simp only [head, hascii, hstart, htwo, hthree, hfour, h₁, h₂, h₃, if_true, if_false, payload,
    Bool.not_true, Bool.false_eq_true]

/-! ## Writing and reading -/

/-- The bytes of a character are read back as that character, whatever follows them. -/
theorem head_utf8EncodeChar (c : Char) : ∃ b tail, String.utf8EncodeChar c = b :: tail ∧
    ∀ rest, head b (tail ++ rest) = .char c (tail.length + 1) := by
  have hvalid : c.toNat < 0xD800 ∨ 0xDFFF < c.toNat ∧ c.toNat < 0x110000 := c.valid
  have hval : c.val.toNat = c.toNat := rfl
  have hbyte : ∀ n, n < 256 → (UInt8.ofNat n).toNat = n := fun n h => UInt8.toNat_ofNat_of_lt' h
  unfold String.utf8EncodeChar
  simp only [hval]
  split
  next h₁ =>
    refine ⟨_, _, rfl, fun rest => ?_⟩
    have hb := hbyte c.toNat (by omega)
    have hlt : UInt8.ofNat c.toNat < 0x80 := by
      rw [UInt8.lt_iff_toNat_lt, hb]
      exact Nat.lt_succ_of_le h₁
    rw [head.eq_def, if_pos hlt, hb, Char.ofNat_toNat]
    rfl
  split
  next _ h₂ =>
    refine ⟨_, _, rfl, fun rest => ?_⟩
    have hb := hbyte (c.toNat / 64 % 32 + 0xC0) (by omega)
    have hb₁ := hbyte (c.toNat % 64 + 0x80) (by omega)
    have hn : (c.toNat / 64 % 32 + 0xC0) % 32 * 64 + (c.toNat % 64 + 0x80) % 64 = c.toNat := by
      omega
    have h := head_two (by rw [hb]; omega) (isContinuation_iff.mpr (by rw [hb₁]; omega)) rest
    rw [hb, hb₁, hn, Char.ofNat_toNat] at h
    exact h
  split
  next _ _ h₃ =>
    refine ⟨_, _, rfl, fun rest => ?_⟩
    have hb := hbyte (c.toNat / 4096 % 16 + 0xE0) (by omega)
    have hb₁ := hbyte (c.toNat / 64 % 64 + 0x80) (by omega)
    have hb₂ := hbyte (c.toNat % 64 + 0x80) (by omega)
    have hn : ((c.toNat / 4096 % 16 + 0xE0) % 16 * 64 + (c.toNat / 64 % 64 + 0x80) % 64) * 64
        + (c.toNat % 64 + 0x80) % 64 = c.toNat := by
      omega
    have hfollows : continues (UInt8.ofNat (c.toNat / 4096 % 16 + 0xE0))
        (UInt8.ofNat (c.toNat / 64 % 64 + 0x80)) = true :=
      continues_iff.mpr (by rw [hb, hb₁]; omega)
    have h := head_three (by rw [hb]; omega) hfollows
      (isContinuation_iff.mpr (by rw [hb₂]; omega)) rest
    rw [hb, hb₁, hb₂, hn, Char.ofNat_toNat] at h
    exact h
  next h₁ h₂ h₃ =>
    refine ⟨_, _, rfl, fun rest => ?_⟩
    have hb := hbyte (c.toNat / 262144 % 8 + 0xF0) (by omega)
    have hb₁ := hbyte (c.toNat / 4096 % 64 + 0x80) (by omega)
    have hb₂ := hbyte (c.toNat / 64 % 64 + 0x80) (by omega)
    have hb₃ := hbyte (c.toNat % 64 + 0x80) (by omega)
    have hn : (((c.toNat / 262144 % 8 + 0xF0) % 8 * 64 + (c.toNat / 4096 % 64 + 0x80) % 64) * 64
        + (c.toNat / 64 % 64 + 0x80) % 64) * 64 + (c.toNat % 64 + 0x80) % 64 = c.toNat := by
      omega
    have hfollows : continues (UInt8.ofNat (c.toNat / 262144 % 8 + 0xF0))
        (UInt8.ofNat (c.toNat / 4096 % 64 + 0x80)) = true :=
      continues_iff.mpr (by rw [hb, hb₁]; omega)
    have h := head_four (by rw [hb]; omega) hfollows
      (isContinuation_iff.mpr (by rw [hb₂]; omega)) (isContinuation_iff.mpr (by rw [hb₃]; omega))
      rest
    rw [hb, hb₁, hb₂, hb₃, hn, Char.ofNat_toNat] at h
    exact h

/-- Half a pair is no character. -/
theorem isHalfOfPair_of_head {b : UInt8} {rest : List UInt8} {c : Char} {length : Nat}
    (h : head b rest = .char c length) : isHalfOfPair (b :: rest) = false := by
  rw [← Bool.not_eq_true]
  intro hhalf
  rcases rest with _ | ⟨b₁, _ | ⟨b₂, rest⟩⟩
  · cases hhalf
  · cases hhalf
  · simp only [isHalfOfPair, Bool.and_eq_true, decide_eq_true_eq] at hhalf
    obtain ⟨⟨⟨rfl, hb₁⟩, -⟩, -⟩ := hhalf
    have hcontinues : continues 0xED b₁ = false := by
      rw [← Bool.not_eq_true, continues_iff]
      rintro ⟨-, -, hlow, -⟩
      exact absurd (hlow rfl) (Nat.not_lt.mpr (UInt8.le_iff_toNat_le.mp hb₁))
    have hhead : head 0xED (b₁ :: b₂ :: rest) = .flawed .continuation 1 := by
      show (if (!continues 0xED b₁) = true then _ else _ : Head) = _
      rw [hcontinues]
      rfl
    rw [hhead] at h
    cases h

theorem decodeFrom_encode (halves : Bool) (s : List Char) (position : Nat) :
    decodeFrom halves position (encode s) = .ok s := by
  induction s generalizing position with
  | nil => rw [encode, List.flatMap_nil, decodeFrom]
  | cons c rest ih =>
    obtain ⟨b, tail, hbytes, hhead⟩ := head_utf8EncodeChar c
    have hencode : encode (c :: rest) = b :: (tail ++ encode rest) := by
      rw [encode, List.flatMap_cons, hbytes, List.cons_append]
      rfl
    rw [hencode, decodeFrom, isHalfOfPair_of_head (hhead _), hhead]
    simp only [Bool.and_false, Bool.false_eq_true, if_false, Nat.add_sub_cancel,
      List.drop_left, ih]
    rfl

theorem decode_encode (s : List Char) : decode (encode s) = .ok s :=
  decodeFrom_encode false s 0

theorem decodeLenient_of_decodeFrom {position : Nat} {bytes : List UInt8} {s : List Char}
    (h : decodeFrom false position bytes = .ok s) : decodeLenient bytes = s := by
  induction bytes using decodeLenient.induct generalizing position s with
  | case1 =>
    rw [decodeFrom] at h
    rw [decodeLenient]
    exact Except.ok.inj h
  | case2 b rest c length hhead ih =>
    rw [decodeFrom, hhead] at h
    cases htail : decodeFrom false (position + length) (rest.drop (length - 1)) with
    | error e =>
      simp only [htail] at h
      cases h
    | ok tail =>
      simp only [htail] at h
      cases h
      rw [decodeLenient, hhead]
      exact congrArg (c :: ·) (ih htail)
  | case3 b rest flaw length hhead ih =>
    rw [decodeFrom, hhead] at h
    cases h

/-- Bytes that are a text have no flawed run to be replaced. -/
theorem decodeLenient_of_decode {bytes : List UInt8} {s : List Char} (h : decode bytes = .ok s) :
    decodeLenient bytes = s :=
  decodeLenient_of_decodeFrom h

end ApiClient.Text.Utf8
