import ApiClient.Outside

/-!
# The platform

What a client takes from the system and the libraries that it runs on, and what is known of it: the
names of hosts beyond ASCII, the codings of contents, how deep a JSON value may be nested, and the
time by which cookies expire.
-/

namespace ApiClient

/-- Whether a character may stand in the ASCII form of the name of a host. -/
def isHostChar (c : Char) : Bool :=
  ('a' ≤ c && c ≤ 'z') || ('0' ≤ c && c ≤ '9') || c = '-' || c = '.'

/-- The names of hosts beyond ASCII. -/
structure Idna where
  /-- The ASCII form of a name in any case, unless the text is no name. -/
  encode : List Char → Option (List Char)
  /-- The name that an ASCII form stands for, or what is wrong with it. -/
  decode : List Char → Except String (List Char)
  /-- An ASCII form has letters, digits, hyphens and dots only. -/
  isHostChar_of_encode : ∀ {s h}, encode s = some h → ∀ c ∈ h, isHostChar c = true
  /-- A name has no other ASCII characters either. -/
  isHostChar_of_ascii : ∀ {s h}, encode s = some h → ∀ c ∈ s, c.toNat < 0x80 →
    isHostChar c.toLower = true
  /-- What stands behind an ASCII text makes the ASCII form longer than that text. -/
  length_lt_of_ascii : ∀ {s t h}, encode (s ++ t) = some h → (∀ c ∈ s, c.toNat < 0x80) → t ≠ [] →
    s.length < h.length
  /-- A name that goes on is another name. -/
  encode_append_ne : ∀ {s t h}, encode s = some h → t ≠ [] → encode (s ++ t) ≠ some h

/-- The codings of contents. -/
structure Codings where
  /-- The chunks of a content with the codings of these names undone, and the failure behind them if
  there is one. -/
  undo : List String → List (List UInt8) → Option Outside → List (List UInt8) × Option Outside
  /-- A content without codings is left as it is. -/
  undo_nil : ∀ chunks failure, undo [] chunks failure = (chunks, failure)

/-- The platform that a client runs on. -/
class Platform where
  /-- The names of hosts beyond ASCII. -/
  idna : Idna
  /-- The codings of contents. -/
  codings : Codings
  /-- How many JSON lists and objects may be open at once where a text is read. -/
  nesting : Nat
  /-- An object of objects of objects is read. -/
  three_le_nesting : 3 ≤ nesting
  /-- The second by which cookies expire, since 1970. -/
  now : Int
  /-- The year that it is at the place of the client. -/
  year : Int

theorem Platform.nesting_pos [Platform] : 0 < nesting :=
  Nat.lt_of_lt_of_le (by decide) three_le_nesting

/-- Without names beyond ASCII. -/
def Idna.none : Idna where
  encode _ := Option.none
  decode _ := .error "Invalid A-label"
  isHostChar_of_encode := nofun
  isHostChar_of_ascii := nofun
  length_lt_of_ascii := nofun
  encode_append_ne := nofun

/-- Without codings. -/
def Codings.none : Codings where
  undo _ chunks failure := (chunks, failure)
  undo_nil _ _ := rfl

/-- A platform that is enough for names and contents in ASCII, at the beginning of 1970. -/
abbrev Platform.plain : Platform where
  idna := .none
  codings := .none
  nesting := 990
  three_le_nesting := by decide
  now := 0
  year := 1970

end ApiClient
