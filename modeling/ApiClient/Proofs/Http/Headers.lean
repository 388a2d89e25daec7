import Mathlib.Data.List.Forall2
import ApiClient.Proofs.Text.Ascii

/-!
# Setting and reading header fields

A field that is set has a single row, and the rows of other fields stay. `Headers.Holds` says that a
field has a single row with an ASCII value; such a field reads the same in every character set, so
it does so whatever else is set.
-/

namespace ApiClient

/-- A row that is put is the only one of its name. -/
theorem putRow_filter_self (row : HeaderRow) (rows : List HeaderRow) :
    (putRow row rows).filter (fun r => r.key = row.key) = [row] := by
  induction rows with
  | nil => simp [putRow]
  | cons r rest ih =>
    unfold putRow
    by_cases hr : r.key = row.key
    · rw [if_pos hr, List.filter_cons_of_pos (by simp), List.filter_filter]
      simp
    · rw [if_neg hr, List.filter_cons_of_neg (by simpa using hr), ih]

theorem filter_filter_key {p q : List UInt8 → Bool} (h : ∀ key, p key = true → q key = true)
    (rows : List HeaderRow) : (rows.filter fun r => q r.key).filter (fun r => p r.key) =
      rows.filter fun r => p r.key := by
  rw [List.filter_filter]
  refine List.filter_congr fun r _ => ?_
  cases hp : p r.key with
  | false => rfl
  | true => rw [h _ hp, Bool.true_and]

/-- Putting a row leaves the rows of any names that its own is not among. -/
theorem filter_putRow {row : HeaderRow} {p : List UInt8 → Bool} (hrow : p row.key = false)
    (rows : List HeaderRow) :
    (putRow row rows).filter (fun r => p r.key) = rows.filter fun r => p r.key := by
  induction rows with
  | nil => simp [putRow, hrow]
  | cons r rest ih =>
    unfold putRow
    by_cases hr : r.key = row.key
    · have hothers : ∀ key, p key = true → decide (key ≠ row.key) = true := fun key hkey =>
        decide_eq_true fun h => by rw [h, hrow] at hkey; cases hkey
      have hrest := filter_filter_key hothers rest
      rw [if_pos hr, List.filter_cons_of_neg (by simp [hrow]),
        List.filter_cons_of_neg (by simp [hr, hrow]), hrest]
    · rw [if_neg hr, List.filter_cons, List.filter_cons, ih]

/-- Rows that are put leave the rows of other names. -/
theorem putRow_filter_of_ne {row : HeaderRow} {key : List UInt8} (h : row.key ≠ key)
    (rows : List HeaderRow) :
    (putRow row rows).filter (fun r => r.key = key) = rows.filter (fun r => r.key = key) :=
  filter_putRow (p := fun k => k = key) (decide_eq_false h) rows

/-- The rows of all names but one. -/
def otherRows (key : List UInt8) (rows : List HeaderRow) : List HeaderRow :=
  rows.filter fun r => r.key ≠ key

theorem mem_putRow {row r : HeaderRow} {rows : List HeaderRow} (h : r ∈ putRow row rows) :
    r = row ∨ r ∈ otherRows row.key rows := by
  induction rows with
  | nil => exact Or.inl (List.mem_singleton.mp h)
  | cons s rest ih =>
    unfold putRow at h
    by_cases hs : s.key = row.key
    · rw [if_pos hs] at h
      unfold otherRows
      rw [List.filter_cons_of_neg (by simpa using hs)]
      exact List.mem_cons.mp h
    · rw [if_neg hs] at h
      have hrest : otherRows row.key (s :: rest) = s :: otherRows row.key rest :=
        List.filter_cons_of_pos (by simpa using hs)
      rw [hrest, List.mem_cons]
      rcases List.mem_cons.mp h with rfl | h
      · exact Or.inr (Or.inl rfl)
      · exact (ih h).imp_right Or.inr

/-- Putting a row leaves the rows of other names. -/
theorem otherRows_putRow (row : HeaderRow) (rows : List HeaderRow) :
    otherRows row.key (putRow row rows) = otherRows row.key rows :=
  filter_putRow (p := fun k => k ≠ row.key) (decide_eq_false (not_not_intro rfl)) rows

/-- Two lists of rows agree but for the rows of one name, which stand in the same places. -/
def RowsAlike (key : List UInt8) (rows others : List HeaderRow) : Prop :=
  List.Forall₂ (fun r s => r = s ∨ r.key = key ∧ s.key = key) rows others

namespace RowsAlike

variable {key : List UInt8} {rows others : List HeaderRow} {r s : HeaderRow}

theorem refl (key : List UInt8) (rows : List HeaderRow) : RowsAlike key rows rows :=
  List.forall₂_same.mpr fun _ _ => Or.inl rfl

theorem key_eq (h : r = s ∨ r.key = key ∧ s.key = key) : r.key = s.key :=
  h.elim (congrArg HeaderRow.key) fun h => h.1.trans h.2.symm

theorem map_key (h : RowsAlike key rows others) :
    rows.map HeaderRow.key = others.map HeaderRow.key := by
  induction h with
  | nil => rfl
  | cons hab _ ih => rw [List.map_cons, List.map_cons, key_eq hab, ih]

theorem filter (h : RowsAlike key rows others) {p : List UInt8 → Bool} :
    RowsAlike key (rows.filter fun r => p r.key) (others.filter fun r => p r.key) := by
  induction h with
  | nil => exact List.Forall₂.nil
  | @cons a b _ _ hab _ ih =>
    rw [List.filter_cons, List.filter_cons, key_eq hab]
    split
    · exact List.Forall₂.cons hab ih
    · exact ih

/-- Putting rows of the name, or the same row, keeps rows alike. -/
theorem putRow (h : RowsAlike key rows others) (hrow : r = s ∨ r.key = key ∧ s.key = key) :
    RowsAlike key (putRow r rows) (putRow s others) := by
  induction h with
  | nil => exact List.Forall₂.cons hrow List.Forall₂.nil
  | @cons a b _ _ hab hrest ih =>
    unfold ApiClient.putRow
    rw [key_eq hab, key_eq hrow]
    split
    · exact List.Forall₂.cons hrow (filter (p := fun k => k ≠ s.key) hrest)
    · exact List.Forall₂.cons hab ih

theorem otherRows_eq (h : RowsAlike key rows others) :
    otherRows key rows = otherRows key others := by
  induction h with
  | nil => rfl
  | @cons a b _ _ hab hrest ih =>
    unfold otherRows at ih ⊢
    rw [List.filter_cons, List.filter_cons, ih]
    rcases hab with rfl | ⟨ha, hb⟩
    · rfl
    · simp [ha, hb]

end RowsAlike

namespace Headers

variable {h t : Headers} {name value : String}

/-- What the rows of the ASCII name `name` are found by. -/
def fieldKey (name : String) : List UInt8 :=
  (asciiBytes name).map asciiLower

/-- The field `name` has a single row, and its value is the ASCII text `value`. -/
def Holds (h : Headers) (name value : String) : Prop :=
  IsAscii value ∧ ∃ r : HeaderRow, h.rows.filter (fun r => r.key = fieldKey name) = [r] ∧
    r.value = asciiBytes value

/-- A field with a single row has that row and no other. -/
theorem hasKey_of_filter {key : List UInt8} {row : HeaderRow}
    (hrow : h.rows.filter (fun r => r.key = key) = [row]) :
    h.hasKey key = true ∧ ∀ r ∈ h.rows, r.key = key → r = row := by
  have hmem : ∀ r, r ∈ h.rows ∧ r.key = key ↔ r = row := by
    intro r
    have hfilter : r ∈ h.rows.filter (fun r => r.key = key) ↔ r ∈ [row] := by rw [hrow]
    rwa [List.mem_filter, decide_eq_true_iff, List.mem_singleton] at hfilter
  obtain ⟨hin, hkey⟩ := (hmem row).mpr rfl
  exact ⟨List.any_eq_true.mpr ⟨row, hin, decide_eq_true hkey⟩, fun r hr hk => (hmem r).mp ⟨hr, hk⟩⟩

/-! ## Setting -/

/-- Setting a field that has a name and a value in the character set puts a row. -/
theorem set_eq_ok : h.set name value = .ok t ↔ ∃ n v,
    h.writingCharset.encode name.toList = .ok n ∧ h.writingCharset.encode value.toList = .ok v ∧
      ∃ hrow, t = h.put { name := n, value := v } hrow := by
  unfold set
  split
  · rename_i e he
    simp [he]
  · rename_i e he
    simp [he]
  · rename_i n v hn hv
    constructor
    · intro hset
      exact ⟨n, v, hn, hv, takes_of_encode hn hv, (Except.ok.inj hset).symm⟩
    · rintro ⟨_, _, hn', hv', -, rfl⟩
      cases hn.symm.trans hn'
      cases hv.symm.trans hv'
      rfl

/-- Setting a field with an ASCII name puts a row of that name and leaves the character set. -/
theorem eq_of_set (hname : IsAscii name) (hset : h.set name value = .ok t) :
    ∃ v, h.writingCharset.encode value.toList = .ok v ∧
      ∃ hrow, t = h.put { name := asciiBytes name, value := v } hrow := by
  obtain ⟨n, v, hn, hv, hrow, rfl⟩ := set_eq_ok.mp hset
  rw [h.writingCharset.encode_of_isAscii hname] at hn
  cases hn
  exact ⟨v, hv, hrow, rfl⟩

/-- A row in ASCII is a text in every character set. -/
theorem takes_row (h : Headers) (hname : IsAscii name) (hvalue : IsAscii value) :
    h.Takes (row name value) :=
  takes_of_encode (h.writingCharset.encode_of_isAscii hname)
    (h.writingCharset.encode_of_isAscii hvalue)

theorem set_of_isAscii (h : Headers) (hname : IsAscii name) (hvalue : IsAscii value) :
    h.set name value = .ok (h.put (row name value) (h.takes_row hname hvalue)) :=
  set_eq_ok.mpr ⟨_, _, h.writingCharset.encode_of_isAscii hname,
    h.writingCharset.encode_of_isAscii hvalue, _, rfl⟩

theorem holds_of_set (hname : IsAscii name) (hvalue : IsAscii value)
    (hset : h.set name value = .ok t) : t.Holds name value := by
  rw [set_of_isAscii h hname hvalue] at hset
  cases hset
  exact ⟨hvalue, _, putRow_filter_self (row name value) h.rows, rfl⟩

/-- Setting another field leaves the row of a field. -/
theorem Holds.set (hholds : h.Holds name value) {other text : String} (hother : IsAscii other)
    (hset : h.set other text = .ok t) (hne : fieldKey other ≠ fieldKey name) :
    t.Holds name value := by
  obtain ⟨v, -, -, rfl⟩ := eq_of_set hother hset
  obtain ⟨hvalue, r, hr, hv⟩ := hholds
  have hkey : HeaderRow.key { name := asciiBytes other, value := v } ≠ fieldKey name := hne
  exact ⟨hvalue, r, (putRow_filter_of_ne hkey h.rows).trans hr, hv⟩

/-! ## Reading -/

theorem Holds.valuesOf (hholds : h.Holds name value) : h.valuesOf (fieldKey name) = [value] := by
  obtain ⟨hvalue, r, hr, hv⟩ := hholds
  rw [Headers.valuesOf, hr, List.map_singleton, hv, h.charset.decode_asciiBytes hvalue]

theorem Holds.get? (hholds : h.Holds name value) : h.get? name = some value := by
  have hvalues : h.valuesOf ((asciiBytes name).map asciiLower) = [value] := hholds.valuesOf
  rw [Headers.get?, hvalues]
  simp

/-! ## Character sets -/

theorem deduce_eq (rows : List HeaderRow) : deduce rows =
    if coversAll .ascii rows then .ascii else if coversAll .utf8 rows then .utf8 else .latin1 := rfl

theorem ascii_of_key {r : HeaderRow} (h : AsciiBytes r.key) : AsciiBytes r.name := by
  intro b hb
  have hlower : asciiLower b < 0x80 := h _ (List.mem_map_of_mem hb)
  unfold asciiLower at hlower
  split at hlower
  · rename_i hletter
    simp only [Bool.and_eq_true, decide_eq_true_eq, UInt8.le_iff_toNat_le] at hletter
    rw [UInt8.lt_iff_toNat_lt]
    exact Nat.lt_of_le_of_lt hletter.2 (by decide)
  · exact hlower

/-- Two character sets read rows alike: they are the same, or the rows are ASCII. -/
def ReadAlike (set other : Charset) (rows : List HeaderRow) : Prop :=
  set = other ∨ coversAll .ascii rows = true

/-- ASCII rows are read the same in every character set. -/
theorem ReadAlike.decode_eq {set other : Charset} {rows : List HeaderRow}
    (h : ReadAlike set other rows) {r : HeaderRow} (hr : r ∈ rows) :
    set.decode r.name = other.decode r.name ∧ set.decode r.value = other.decode r.value := by
  rcases h with rfl | hascii
  · exact ⟨rfl, rfl⟩
  · obtain ⟨hname, hvalue⟩ := coversAll_iff.mp hascii r hr
    rw [Charset.covers_ascii_iff] at hname hvalue
    rw [set.decode_of_ascii hname, other.decode_of_ascii hname, set.decode_of_ascii hvalue,
      other.decode_of_ascii hvalue]
    exact ⟨rfl, rfl⟩

/-- Rows of one name that are texts in UTF-8 do not change what the other rows are read as. -/
theorem readAlike_deduce {key : List UInt8} {rows : List HeaderRow} (hkey : AsciiBytes key)
    (hutf8 : ∀ r ∈ rows, r.key = key → Charset.utf8.covers r.value = true) :
    ReadAlike (deduce rows) (deduce (otherRows key rows)) (otherRows key rows) := by
  have hsubset : ∀ set : Charset, coversAll set rows = true →
      coversAll set (otherRows key rows) = true := by
    intro set hall
    rw [coversAll_iff] at hall ⊢
    exact fun s hs => hall s (List.mem_filter.mp hs).1
  by_cases hascii : coversAll .ascii (otherRows key rows) = true
  · exact Or.inr hascii
  · have hrows : ¬ coversAll .ascii rows = true := fun h => hascii (hsubset _ h)
    have hsame : coversAll .utf8 rows = coversAll .utf8 (otherRows key rows) := by
      rw [Bool.eq_iff_iff]
      refine ⟨hsubset _, fun hall => ?_⟩
      rw [coversAll_iff] at hall ⊢
      intro s hs
      by_cases hs' : s.key = key
      · exact ⟨Charset.utf8.covers_of_ascii (ascii_of_key (hs' ▸ hkey)), hutf8 s hs hs'⟩
      · exact hall s (List.mem_filter.mpr ⟨hs, by simpa using hs'⟩)
    left
    rw [deduce_eq, deduce_eq, if_neg hrows, if_neg hascii, hsame]

/-- Header fields in one character set, or in none yet, that agree but for a name whose values are
texts in UTF-8 are read the same but for that name. -/
theorem readAlike_charset {key : List UInt8} (hkey : AsciiBytes key)
    (hsettled : h.settled = t.settled) (hrows : otherRows key h.rows = otherRows key t.rows)
    (hutf8 : h.settled = none → (∀ r ∈ h.rows, r.key = key → Charset.utf8.covers r.value = true) ∧
      ∀ r ∈ t.rows, r.key = key → Charset.utf8.covers r.value = true) :
    ReadAlike h.charset t.charset (otherRows key h.rows) := by
  cases hset : h.settled with
  | some set =>
    left
    rw [charset, charset, ← hsettled, hset, Option.getD_some, Option.getD_some]
  | none =>
    obtain ⟨hleft, hright⟩ := hutf8 hset
    rw [charset, charset, ← hsettled, hset, Option.getD_none, Option.getD_none]
    rcases readAlike_deduce hkey hleft with hsame | hascii
    · rcases readAlike_deduce hkey hright with hsame' | hascii
      · exact Or.inl (by rw [hsame, hsame', hrows])
      · exact Or.inr (hrows ▸ hascii)
    · exact Or.inr hascii

theorem get?_eq {key : List UInt8} (hne : fieldKey name ≠ key)
    (hothers : otherRows key h.rows = otherRows key t.rows)
    (hreads : ReadAlike h.charset t.charset (otherRows key h.rows)) :
    h.get? name = t.get? name := by
  have hfilter : ∀ rows : List HeaderRow, rows.filter (fun r => r.key = fieldKey name) =
      (otherRows key rows).filter fun r => r.key = fieldKey name := fun rows =>
    (filter_filter_key (p := fun k => k = fieldKey name) (q := fun k => k ≠ key)
      (fun k hk => decide_eq_true fun h => hne ((of_decide_eq_true hk).symm.trans h)) rows).symm
  have hvalues : h.valuesOf (fieldKey name) = t.valuesOf (fieldKey name) := by
    rw [valuesOf, valuesOf, hfilter h.rows, hfilter t.rows, ← hothers]
    refine List.map_congr_left fun r hr => ?_
    rw [(hreads.decode_eq (List.mem_filter.mp hr).1).2]
  have hvalues : h.valuesOf ((asciiBytes name).map asciiLower) =
      t.valuesOf ((asciiBytes name).map asciiLower) := hvalues
  rw [get?, get?, hvalues]

end Headers

end ApiClient
