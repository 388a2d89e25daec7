import ApiClient.Proofs.Http.Rows

/-!
# What character sets have

A text can be written in a character set exactly if the set has all its characters. The rows of a
message are read without a replacement, whatever was set in them. Which set is deduced from rows is
not changed by rows in ASCII: only those count that they leave.
-/

namespace ApiClient

namespace Charset

/-- A character set has a character. -/
def Has : Charset → Char → Prop
  | ascii, c => c.toNat < 0x80
  | utf8, _ => True
  | latin1, c => c.toNat < 0x100

instance (set : Charset) (c : Char) : Decidable (set.Has c) :=
  match set with
  | ascii => inferInstanceAs (Decidable (c.toNat < 0x80))
  | utf8 => isTrue trivial
  | latin1 => inferInstanceAs (Decidable (c.toNat < 0x100))

/-- A character set has all characters of a text. -/
def HasAll (set : Charset) (s : String) : Prop :=
  ∀ c ∈ s.toList, set.Has c

instance (set : Charset) (s : String) : Decidable (set.HasAll s) :=
  List.decidableBAll set.Has s.toList

variable {set : Charset} {s t : String}

theorem hasAll_append : set.HasAll (s ++ t) ↔ set.HasAll s ∧ set.HasAll t := by
  simp only [HasAll, String.toList_append, List.forall_mem_append]

/-- An ASCII text is one in every character set. -/
theorem hasAll_of_isAscii (hs : IsAscii s) : set.HasAll s := by
  intro c hc
  have hascii : c.toNat < 0x80 := hs c hc
  cases set with
  | ascii => exact hascii
  | utf8 => trivial
  | latin1 => exact Nat.lt_trans hascii (by decide)

theorem encodeBelow_eq_ok_iff (encoding : Text.Encoding) (limit : Nat) (chars : List Char) :
    (∃ bytes, Text.encodeBelow encoding limit chars = .ok bytes) ↔
      ∀ c ∈ chars, c.toNat < limit := by
  have hall : chars.dropWhile (fun c => decide (c.toNat < limit)) = [] ↔
      ∀ c ∈ chars, c.toNat < limit := by simp
  rw [← hall, Text.encodeBelow]
  cases chars.dropWhile fun c => decide (c.toNat < limit) with
  | nil => simp
  | cons c rest => simp

/-- A text is written exactly if the character set has all its characters. -/
theorem encode_eq_ok_iff : (∃ bytes, set.encode s.toList = .ok bytes) ↔ set.HasAll s := by
  cases set with
  | ascii => exact encodeBelow_eq_ok_iff .ascii 0x80 s.toList
  | utf8 => exact iff_of_true ⟨_, rfl⟩ fun _ _ => trivial
  | latin1 => exact encodeBelow_eq_ok_iff .latin1 0x100 s.toList

/-- The text that bytes are in the character set, if they are one. -/
def read? : Charset → List UInt8 → Option (List Char)
  | utf8, bytes => (Text.Utf8.decode bytes).toOption
  | set, bytes => if set.covers bytes then some (set.decode bytes) else none

/-- What a character set covers is read in it as it is. -/
theorem read?_of_covers {bytes : List UInt8} (h : set.covers bytes = true) :
    set.read? bytes = some (set.decode bytes) := by
  cases set with
  | ascii => exact if_pos h
  | latin1 => rfl
  | utf8 =>
    have hdecodes : (Text.Utf8.decode bytes).toBool = true := h
    show (Text.Utf8.decode bytes).toOption = some (Text.Utf8.decodeLenient bytes)
    cases hread : Text.Utf8.decode bytes with
    | error e =>
      rw [hread] at hdecodes
      cases hdecodes
    | ok s =>
      rw [Text.Utf8.decodeLenient_of_decode hread]
      rfl

end Charset

/-- Names and values of all rows are read as they are, in the character set that was settled as in
one that is deduced. -/
theorem Headers.read?_of_mem (h : Headers) {r : HeaderRow} (hr : r ∈ h.rows) :
    h.charset.read? r.name = some (h.charset.decode r.name) ∧
      h.charset.read? r.value = some (h.charset.decode r.value) := by
  obtain ⟨hname, hvalue⟩ := coversAll_iff.mp h.coversAll_charset r hr
  exact ⟨Charset.read?_of_covers hname, Charset.read?_of_covers hvalue⟩

/-! ## Rows that are put -/

variable {news rows : List HeaderRow}

theorem mem_putRows {r : HeaderRow} (h : r ∈ putRows news rows) :
    r ∈ news ∨ r ∈ rows ∧ r.key ∉ news.map HeaderRow.key := by
  induction news generalizing rows with
  | nil => exact Or.inr ⟨h, List.not_mem_nil⟩
  | cons new news ih =>
    rw [List.map_cons, List.mem_cons, List.mem_cons, not_or]
    rcases ih h with hnews | ⟨hput, hkey⟩
    · exact Or.inl (Or.inr hnews)
    · rcases mem_putRow hput with rfl | hother
      · exact Or.inl (Or.inl rfl)
      · obtain ⟨hr, hne⟩ := List.mem_filter.mp hother
        exact Or.inr ⟨hr, of_decide_eq_true hne, hkey⟩

/-- Putting rows leaves the rows of any names that theirs are not among. -/
theorem filter_putRows {p : List UInt8 → Bool} (hnews : ∀ r ∈ news, p r.key = false)
    (rows : List HeaderRow) :
    (putRows news rows).filter (fun r => p r.key) = rows.filter fun r => p r.key := by
  induction news generalizing rows with
  | nil => rfl
  | cons new news ih =>
    obtain ⟨hnew, hnews⟩ := List.forall_mem_cons.mp hnews
    exact (ih hnews (putRow new rows)).trans (filter_putRow hnew rows)

namespace Headers

/-- Rows in ASCII that are put do not count for the character set. -/
theorem deduce_putRows (hascii : ∀ r ∈ news, AsciiBytes r.name ∧ AsciiBytes r.value)
    (rows : List HeaderRow) : deduce (putRows news rows) =
      deduce (rows.filter fun r => r.key ∉ news.map HeaderRow.key) := by
  have hothers : (putRows news rows).filter (fun r => r.key ∉ news.map HeaderRow.key) =
      rows.filter fun r => r.key ∉ news.map HeaderRow.key :=
    filter_putRows (p := fun key => key ∉ news.map HeaderRow.key)
      (fun r hr => decide_eq_false (not_not_intro (List.mem_map_of_mem hr))) rows
  have hcovers : ∀ set : Charset, coversAll set (putRows news rows) =
      coversAll set (rows.filter fun r => r.key ∉ news.map HeaderRow.key) := by
    intro set
    rw [Bool.eq_iff_iff, coversAll_iff, coversAll_iff, ← hothers]
    constructor
    · exact fun h r hr => h r (List.mem_filter.mp hr).1
    · intro h r hr
      rcases mem_putRows hr with hnew | ⟨-, hkey⟩
      · obtain ⟨hname, hvalue⟩ := hascii r hnew
        exact ⟨set.covers_of_ascii hname, set.covers_of_ascii hvalue⟩
      · exact h r (List.mem_filter.mpr ⟨hr, decide_eq_true hkey⟩)
  rw [deduce_eq, deduce_eq, hcovers, hcovers]

end Headers

end ApiClient
