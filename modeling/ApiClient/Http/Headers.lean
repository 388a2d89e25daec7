import ApiClient.Http.Charset
import ApiClient.Text.Case

/-!
# Header fields

The rows of header fields of a message, in order, with the spelling each name came in. Names are
compared without regard to ASCII case, and a name may have several rows.

The first time that a field is read, the character set of the rows is worked out, and from then on
it is the one in which fields are set; before that, fields are set in UTF-8.
-/

namespace ApiClient

/-- One row of a header: name and value as bytes. -/
structure HeaderRow where
  /-- The name, as spelled. -/
  name : List UInt8
  /-- The value. -/
  value : List UInt8
  deriving DecidableEq, Repr

/-- The lower case of an ASCII letter. -/
def asciiLower (b : UInt8) : UInt8 :=
  if 0x41 ≤ b && b ≤ 0x5A then b + 0x20 else b

/-- What names are compared by. -/
def HeaderRow.key (r : HeaderRow) : List UInt8 :=
  r.name.map asciiLower

/-- Puts `row` in the place of the first row of its name and drops the others of that name, or
appends it. -/
def putRow (row : HeaderRow) : List HeaderRow → List HeaderRow
  | [] => [row]
  | r :: rest =>
    if r.key = row.key then row :: rest.filter (fun s => s.key ≠ row.key) else r :: putRow row rest

theorem eq_or_mem_of_mem_putRow {row r : HeaderRow} {rows : List HeaderRow}
    (h : r ∈ putRow row rows) : r = row ∨ r ∈ rows := by
  induction rows with
  | nil => exact .inl (List.mem_singleton.mp h)
  | cons s rest ih =>
    unfold putRow at h
    split at h
    · exact (List.mem_cons.mp h).imp_right fun h => List.mem_cons_of_mem _ (List.mem_filter.mp h).1
    · exact (List.mem_cons.mp h).elim (fun h => .inr (h ▸ List.mem_cons_self))
        fun h => (ih h).imp_right (List.mem_cons_of_mem _)

/-- Whether names and values of all rows are texts in a character set. -/
def Headers.coversAll (set : Charset) (rows : List HeaderRow) : Bool :=
  rows.all fun r => set.covers r.name && set.covers r.value

/-- The rows of a message, with the character set once it is settled. -/
@[ext]
structure Headers where
  /-- The rows, in order. -/
  rows : List HeaderRow
  /-- The character set that reading has settled. -/
  settled : Option Charset := none
  /-- The rows are texts in a set that is settled. -/
  covered : ∀ set, settled = some set → Headers.coversAll set rows = true := by nofun
  deriving DecidableEq, Repr

namespace Headers

theorem coversAll_iff {set : Charset} {rows : List HeaderRow} : coversAll set rows = true ↔
    ∀ r ∈ rows, set.covers r.name = true ∧ set.covers r.value = true := by
  simp [coversAll]

/-- The first character set that covers all rows. -/
def deduce (rows : List HeaderRow) : Charset :=
  if coversAll .ascii rows then .ascii else if coversAll .utf8 rows then .utf8 else .latin1

theorem coversAll_deduce (rows : List HeaderRow) : coversAll (deduce rows) rows = true := by
  unfold deduce
  split
  · assumption
  · split
    · assumption
    · exact coversAll_iff.mpr fun _ _ => ⟨rfl, rfl⟩

/-- The character set in which fields are read. -/
def charset (h : Headers) : Charset :=
  h.settled.getD (deduce h.rows)

/-- The rows are texts in the character set in which they are read. -/
theorem coversAll_charset (h : Headers) : coversAll h.charset h.rows = true := by
  unfold charset
  cases hset : h.settled with
  | none => exact coversAll_deduce h.rows
  | some set => exact h.covered set hset

/-- The header fields of rows of which none has been read. -/
def ofRows (rows : List HeaderRow) : Headers where
  rows := rows

/-- The same rows with their character set settled, as any reading leaves them. -/
def settle (h : Headers) : Headers where
  rows := h.rows
  settled := some h.charset
  covered := fun _ hset => Option.some.inj hset ▸ h.coversAll_charset

/-- The character set in which fields are set. -/
def writingCharset (h : Headers) : Charset :=
  h.settled.getD .utf8

/-- What rows are looked up by for `name`. -/
def lookupKey (h : Headers) (name : String) : Except Text.EncodeError (List UInt8) :=
  h.charset.encode (Text.lower name).toList

/-- The values of the rows with the key `key`, in order. -/
def valuesOf (h : Headers) (key : List UInt8) : List String :=
  (h.rows.filter fun r => r.key = key).map fun r => String.ofList (h.charset.decode r.value)

/-- Whether a row with the key `key` exists. -/
def hasKey (h : Headers) (key : List UInt8) : Bool :=
  h.rows.any fun r => r.key = key

/-- The bytes of an ASCII name. -/
def asciiBytes (name : String) : List UInt8 :=
  name.toList.map fun c => UInt8.ofNat c.toNat

/-- Whether a row with the ASCII name `name` exists. -/
def has (h : Headers) (name : String) : Bool :=
  h.hasKey ((asciiBytes name).map asciiLower)

/-- The value of the ASCII name `name`: the values of its rows, joined by a comma and a space. -/
def get? (h : Headers) (name : String) : Option String :=
  match h.valuesOf ((asciiBytes name).map asciiLower) with
  | [] => none
  | values => some (", ".intercalate values)

/-- Whether a row is a text in the character set of the fields, if that is settled. -/
def Takes (h : Headers) (row : HeaderRow) : Prop :=
  ∀ set, h.settled = some set → set.covers row.name = true ∧ set.covers row.value = true

theorem takes_of_encode {h : Headers} {n v : List Char} {name value : List UInt8}
    (hname : h.writingCharset.encode n = .ok name)
    (hvalue : h.writingCharset.encode v = .ok value) : h.Takes { name, value } := by
  intro set hset
  rw [writingCharset, hset, Option.getD_some] at hname hvalue
  exact ⟨Charset.covers_of_encode hname, Charset.covers_of_encode hvalue⟩

/-- The fields with a row put among theirs. -/
def put (h : Headers) (row : HeaderRow) (hrow : h.Takes row) : Headers where
  rows := putRow row h.rows
  settled := h.settled
  covered := fun set hset => coversAll_iff.mpr fun _ hmem =>
    (eq_or_mem_of_mem_putRow hmem).elim (· ▸ hrow set hset)
      (coversAll_iff.mp (h.covered set hset) _)

/-- Sets the field `name` to `value`: one row with this spelling and value remains. -/
def set (h : Headers) (name value : String) : Except Text.EncodeError Headers :=
  match hname : h.writingCharset.encode name.toList,
    hvalue : h.writingCharset.encode value.toList with
  | .error e, _ | .ok _, .error e => .error e
  | .ok name, .ok value => .ok (h.put { name, value } (takes_of_encode hname hvalue))

/-- A row with an ASCII name and value. -/
def row (name value : String) : HeaderRow where
  name := asciiBytes name
  value := asciiBytes value

/-- Appends a row unless one of its name exists. -/
def addDefault (row : HeaderRow) (rows : List HeaderRow) : List HeaderRow :=
  if rows.any (fun r => r.key = row.key) then rows else rows ++ [row]

end Headers

end ApiClient
