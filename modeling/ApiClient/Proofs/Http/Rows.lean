import ApiClient.Proofs.Http.Headers

/-!
# Rows that are put one after the other

A row replaces the rows of its name, and leaves the places of all others. So rows that are put again
under the same names leave nothing of the rows put before, and stand where those stood.
-/

namespace ApiClient

variable {row new : HeaderRow} {rows olds news : List HeaderRow} {key : List UInt8}

/-- Keeping the rows of some names, that of a row put among them, may be done before it is put. -/
theorem filter_putRow_of_kept {p : List UInt8 → Bool} (hrow : p row.key = true)
    (rows : List HeaderRow) :
    (putRow row rows).filter (fun r => p r.key) = putRow row (rows.filter fun r => p r.key) := by
  induction rows with
  | nil => simp [putRow, hrow]
  | cons r rest ih =>
    by_cases hr : r.key = row.key
    · have hp : p r.key = true := by rw [hr, hrow]
      rw [putRow, if_pos hr, List.filter_cons, if_pos hrow, List.filter_cons, if_pos hp, putRow,
        if_pos hr, List.filter_filter, List.filter_filter]
      simp only [Bool.and_comm]
    · rw [putRow, if_neg hr, List.filter_cons, List.filter_cons, ih]
      split
      · rw [putRow, if_neg hr]
      · rfl

/-- The later one of two rows of one name remains. -/
theorem putRow_putRow (hkey : row.key = new.key) (rows : List HeaderRow) :
    putRow new (putRow row rows) = putRow new rows := by
  induction rows with
  | nil =>
    show putRow new [row] = [new]
    rw [putRow, if_pos hkey, List.filter_nil]
  | cons r rest ih =>
    by_cases hr : r.key = row.key
    · have hrest : (rest.filter fun s => s.key ≠ row.key).filter (fun s => s.key ≠ new.key) =
          rest.filter fun s => s.key ≠ new.key :=
        filter_filter_key (p := fun k => k ≠ new.key) (q := fun k => k ≠ row.key)
          (fun k hk => hkey ▸ hk) rest
      rw [putRow, if_pos hr, putRow, if_pos hkey, hrest, putRow, if_pos (hr.trans hkey)]
    · rw [putRow, if_neg hr, putRow, if_neg (hkey ▸ hr), ih, putRow, if_neg (hkey ▸ hr)]

theorem key_mem_putRow (row : HeaderRow) (rows : List HeaderRow) :
    row.key ∈ (putRow row rows).map HeaderRow.key := by
  have hrow : row ∈ (putRow row rows).filter fun r => r.key = row.key := by
    rw [putRow_filter_self]
    exact List.mem_singleton_self row
  exact List.mem_map_of_mem (List.mem_filter.mp hrow).1

theorem key_mem_putRow_of_mem (h : key ∈ rows.map HeaderRow.key) (row : HeaderRow) :
    key ∈ (putRow row rows).map HeaderRow.key := by
  by_cases hkey : row.key = key
  · rw [← hkey]
    exact key_mem_putRow row rows
  · obtain ⟨r, hr, rfl⟩ := List.mem_map.mp h
    have hkept : r ∈ (putRow row rows).filter fun s => s.key = r.key := by
      rw [putRow_filter_of_ne hkey]
      exact List.mem_filter.mpr ⟨hr, decide_eq_true rfl⟩
    exact List.mem_map_of_mem (List.mem_filter.mp hkept).1

/-- Two rows of different names may be put in either order where one of the names has a row. -/
theorem putRow_comm (hne : new.key ≠ row.key) (hmem : new.key ∈ rows.map HeaderRow.key) :
    putRow new (putRow row rows) = putRow row (putRow new rows) := by
  induction rows with
  | nil => cases hmem
  | cons r rest ih =>
    have hkeptNew : (putRow new rest).filter (fun s => s.key ≠ row.key) =
        putRow new (rest.filter fun s => s.key ≠ row.key) :=
      filter_putRow_of_kept (p := fun k => k ≠ row.key) (decide_eq_true hne) rest
    have hkeptRow : (putRow row rest).filter (fun s => s.key ≠ new.key) =
        putRow row (rest.filter fun s => s.key ≠ new.key) :=
      filter_putRow_of_kept (p := fun k => k ≠ new.key) (decide_eq_true hne.symm) rest
    by_cases hnew : r.key = new.key
    · have hrow : r.key ≠ row.key := fun h => hne (hnew.symm.trans h)
      rw [putRow, if_neg hrow, putRow, if_pos hnew, putRow, if_pos hnew, putRow, if_neg hne,
        hkeptRow]
    · by_cases hrow : r.key = row.key
      · rw [putRow, if_pos hrow, putRow, if_neg hne.symm, putRow, if_neg hnew, putRow,
          if_pos hrow, hkeptNew]
      · have hrest : new.key ∈ rest.map HeaderRow.key :=
          (List.mem_cons.mp hmem).resolve_left fun h => hnew h.symm
        rw [putRow, if_neg hrow, putRow, if_neg hnew, ih hrest, putRow, if_neg hnew, putRow,
          if_neg hrow]

/-- An ASCII field that is set puts a row. -/
theorem Headers.eq_of_set_ascii {h t : Headers} {name value : String} (hname : IsAscii name)
    (hvalue : IsAscii value) (hset : h.set name value = .ok t) :
    t = h.put (Headers.row name value) (h.takes_row hname hvalue) := by
  rw [set_of_isAscii h hname hvalue] at hset
  exact (Except.ok.inj hset).symm

/-- Puts rows one after the other. -/
def putRows (news rows : List HeaderRow) : List HeaderRow :=
  news.foldl (fun rows row => putRow row rows) rows

theorem putRows_append (news more rows : List HeaderRow) :
    putRows (news ++ more) rows = putRows more (putRows news rows) :=
  List.foldl_append

/-- A row takes the place of one of its name after or before rows of other names are put. -/
theorem putRow_putRows (hne : new.key ∉ olds.map HeaderRow.key)
    (hmem : new.key ∈ rows.map HeaderRow.key) :
    putRow new (putRows olds rows) = putRows olds (putRow new rows) := by
  induction olds generalizing rows with
  | nil => rfl
  | cons old rest ih =>
    rw [List.map_cons, List.mem_cons, not_or] at hne
    have hkept : new.key ∈ (putRow old rows).map HeaderRow.key :=
      key_mem_putRow_of_mem hmem old
    calc putRow new (putRows rest (putRow old rows))
        = putRows rest (putRow new (putRow old rows)) := ih hne.2 hkept
      _ = putRows rest (putRow old (putRow new rows)) := by rw [putRow_comm hne.1 hmem]

/-- Rows that are put again under the same names leave nothing of those put before. -/
theorem putRows_putRows (hkeys : olds.map HeaderRow.key = news.map HeaderRow.key)
    (hnodup : (news.map HeaderRow.key).Nodup) (rows : List HeaderRow) :
    putRows news (putRows olds rows) = putRows news rows := by
  induction news generalizing olds rows with
  | nil =>
    rw [List.map_nil, List.map_eq_nil_iff] at hkeys
    rw [hkeys]
    rfl
  | cons new news ih =>
    obtain ⟨old, olds, rfl, hkey, hrest⟩ := List.map_eq_cons_iff.mp hkeys
    rw [List.map_cons, List.nodup_cons] at hnodup
    have hne : new.key ∉ olds.map HeaderRow.key := hrest ▸ hnodup.1
    have hmem : new.key ∈ (putRow old rows).map HeaderRow.key := hkey ▸ key_mem_putRow old rows
    -- the row is put past the rest of the old ones, in the place of its own old one
    calc putRows news (putRow new (putRows olds (putRow old rows)))
        = putRows news (putRows olds (putRow new (putRow old rows))) := by
          rw [putRow_putRows hne hmem]
      _ = putRows news (putRows olds (putRow new rows)) := by rw [putRow_putRow hkey]
      _ = putRows news (putRow new rows) := ih hrest hnodup.2 _

end ApiClient
