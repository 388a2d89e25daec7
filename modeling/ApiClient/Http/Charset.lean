import ApiClient.Proofs.Text.Utf8

/-!
# Character sets of header fields

Header fields are bytes. As text they are read and written in one character set for all rows of a
message: the first of ASCII, UTF-8 and Latin-1 that every row is a text in.
-/

namespace ApiClient

/-- A character set of header fields. -/
inductive Charset
  | ascii
  | utf8
  | latin1
  deriving DecidableEq, Repr

namespace Charset

/-- Whether `bytes` are a text in the character set. -/
def covers : Charset → List UInt8 → Bool
  | ascii, bytes => bytes.all (· < 0x80)
  | utf8, bytes => (Text.Utf8.decode bytes).toBool
  | latin1, _ => true

/-- The text of bytes that the character set covers. -/
def decode : Charset → List UInt8 → List Char
  | utf8, bytes => Text.Utf8.decodeLenient bytes
  | _, bytes => bytes.map fun b => Char.ofNat b.toNat

/-- The bytes of a text, unless it has a character that the set lacks. -/
def encode : Charset → List Char → Except Text.EncodeError (List UInt8)
  | ascii, s => Text.encodeBelow .ascii 0x80 s
  | utf8, s => .ok (Text.Utf8.encode s)
  | latin1, s => Text.encodeBelow .latin1 0x100 s

/-- A text that is written with one byte for each character has no others. -/
theorem below_of_encodeBelow {encoding : Text.Encoding} {limit : Nat} {s : List Char}
    {bytes : List UInt8} (h : Text.encodeBelow encoding limit s = .ok bytes) :
    (∀ c ∈ s, c.toNat < limit) ∧ bytes = s.map fun c => UInt8.ofNat c.toNat := by
  have hall : s.dropWhile (·.toNat < limit) = [] → ∀ c ∈ s, c.toNat < limit := by
    clear h
    induction s with
    | nil => simp
    | cons c rest ih =>
      intro hdrop
      by_cases hc : c.toNat < limit
      · simp only [List.dropWhile_cons, hc, decide_true, if_true] at hdrop
        exact List.forall_mem_cons.mpr ⟨hc, ih hdrop⟩
      · simp [hc] at hdrop
  unfold Text.encodeBelow at h
  split at h
  · cases h
    exact ⟨hall ‹_›, rfl⟩
  · cases h

/-- What a text is written as in a character set is a text in it. -/
theorem covers_of_encode {set : Charset} {s : List Char} {bytes : List UInt8}
    (h : set.encode s = .ok bytes) : set.covers bytes = true := by
  cases set with
  | latin1 => rfl
  | utf8 =>
    cases h
    show (Text.Utf8.decode (Text.Utf8.encode s)).toBool = true
    rw [Text.Utf8.decode_encode]
    rfl
  | ascii =>
    have h : Text.encodeBelow .ascii 0x80 s = .ok bytes := h
    obtain ⟨hbelow, rfl⟩ := below_of_encodeBelow h
    refine List.all_eq_true.mpr fun b hb => decide_eq_true ?_
    obtain ⟨c, hc, rfl⟩ := List.mem_map.mp hb
    have hlt := hbelow c hc
    rw [UInt8.lt_iff_toNat_lt, UInt8.toNat_ofNat_of_lt' (Nat.lt_trans hlt (by decide))]
    exact hlt

end Charset

end ApiClient
