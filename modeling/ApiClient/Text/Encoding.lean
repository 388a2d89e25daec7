import ApiClient.Text.Character

/-!
# Text encodings and their failures

The encodings in which texts arrive and leave, and the two ways in which one may not apply: bytes
that no text is written as, and characters that the encoding has no bytes for.
-/

namespace ApiClient.Text

/-- The encodings of header fields and bodies. -/
inductive Encoding
  | ascii
  | latin1
  | utf8
  | utf16le
  | utf16be
  | utf32le
  | utf32be
  deriving DecidableEq, Repr

/-- The name of an encoding in messages. -/
def Encoding.name : Encoding → String
  | .ascii => "ascii"
  | .latin1 => "latin-1"
  | .utf8 => "utf-8"
  | .utf16le => "utf-16-le"
  | .utf16be => "utf-16-be"
  | .utf32le => "utf-32-le"
  | .utf32be => "utf-32-be"

/-- Why a run of bytes is no character. -/
inductive Flaw
  /-- A byte that starts no character. -/
  | start
  /-- A byte that should continue a character and does not. -/
  | continuation
  /-- The bytes end inside a character. -/
  | ending
  /-- The bytes end inside a code unit. -/
  | unit
  /-- A number above the last character. -/
  | range
  deriving DecidableEq, Repr

/-- The reason given for a flaw. -/
def Flaw.reason : Flaw → String
  | .start => "invalid start byte"
  | .continuation => "invalid continuation byte"
  | .ending => "unexpected end of data"
  | .unit => "truncated data"
  | .range => "code point not in range(0x110000)"

/-- Bytes that are no text in an encoding. -/
structure DecodeError where
  /-- The encoding tried. -/
  encoding : Encoding
  /-- Where the faulty run begins. -/
  position : Nat
  /-- The faulty run. -/
  bytes : List UInt8
  /-- What is wrong with it. -/
  flaw : Flaw
  deriving DecidableEq, Repr

/-- The wording of a decoding failure. -/
def DecodeError.message (e : DecodeError) : String :=
  let place :=
    match e.bytes with
    | [b] => "byte 0x" ++ String.ofList (hexPadded 2 b.toNat) ++ s!" in position {e.position}"
    | bs => s!"bytes in position {e.position}-{e.position + bs.length - 1}"
  "'" ++ e.encoding.name ++ "' codec can't decode " ++ place ++ ": " ++ e.flaw.reason

/-- Characters that an encoding has no bytes for. -/
structure EncodeError where
  /-- The encoding tried: `ascii` or `latin1`, as the others cover all characters. -/
  encoding : Encoding
  /-- Where the first such character stands. -/
  position : Nat
  /-- That character. -/
  first : Char
  /-- How many such characters stand there in a row. -/
  count : Nat
  deriving DecidableEq, Repr

/-- The escape that names a character in an encoding failure. -/
def charEscape (c : Char) : String :=
  String.ofList <|
    if c.toNat < 0x100 then '\\' :: 'x' :: hexPadded 2 c.toNat
    else if c.toNat < 0x10000 then '\\' :: 'u' :: hexPadded 4 c.toNat
    else '\\' :: 'U' :: hexPadded 8 c.toNat

/-- The wording of an encoding failure. -/
def EncodeError.message (e : EncodeError) : String :=
  let place :=
    if e.count = 1 then "character '" ++ charEscape e.first ++ s!"' in position {e.position}"
    else s!"characters in position {e.position}-{e.position + e.count - 1}"
  let limit := if e.encoding = .ascii then "128" else "256"
  "'" ++ e.encoding.name ++ "' codec can't encode " ++ place ++ ": ordinal not in range("
    ++ limit ++ ")"

/-- The bytes of a text in an encoding with one byte per character below `limit`. -/
def encodeBelow (encoding : Encoding) (limit : Nat) (s : List Char) :
    Except EncodeError (List UInt8) :=
  match s.dropWhile (·.toNat < limit) with
  | [] => .ok (s.map fun c => UInt8.ofNat c.toNat)
  | c :: rest =>
    .error {
      encoding
      position := (s.takeWhile (·.toNat < limit)).length
      first := c
      count := 1 + (rest.takeWhile (limit ≤ ·.toNat)).length }

end ApiClient.Text
