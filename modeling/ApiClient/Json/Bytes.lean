import ApiClient.Json.Printer
import ApiClient.Json.Reader
import ApiClient.Text.Utf8

/-!
# JSON in bytes

Bodies are bytes. Which of the Unicode encodings a JSON body is in is seen from its byte order
mark, or else from where the zero bytes stand among the first four: a JSON text begins with two
ASCII characters. What is written is always UTF-8.
-/

namespace ApiClient.Json

open Text

/-- The encoding of a JSON body. `skip` bytes of a mark stand in front of the text. -/
inductive BodyEncoding
  | utf8 (skip : Nat)
  | utf16 (order : ByteOrder) (skip : Nat)
  | utf32 (order : ByteOrder) (skip : Nat)
  deriving DecidableEq, Repr

/-- The encoding that a byte order mark at the front tells. -/
def markedEncoding? : List UInt8 → Option BodyEncoding
  | 0x00 :: 0x00 :: 0xFE :: 0xFF :: _ => some (.utf32 .big 4)
  | 0xFF :: 0xFE :: 0x00 :: 0x00 :: _ => some (.utf32 .little 4)
  | 0xFE :: 0xFF :: _ => some (.utf16 .big 2)
  | 0xFF :: 0xFE :: _ => some (.utf16 .little 2)
  | 0xEF :: 0xBB :: 0xBF :: _ => some (.utf8 3)
  | _ => none

/-- The encoding that the zero bytes at the front tell. -/
def zerosEncoding : List UInt8 → BodyEncoding
  | a :: b :: c :: d :: _ =>
    if a = 0 then if b = 0 then .utf32 .big 0 else .utf16 .big 0
    else if b = 0 then if c = 0 ∧ d = 0 then .utf32 .little 0 else .utf16 .little 0
    else .utf8 0
  | [a, b] => if a = 0 then .utf16 .big 0 else if b = 0 then .utf16 .little 0 else .utf8 0
  | _ => .utf8 0

/-- The encoding of a body. -/
def BodyEncoding.detect (body : List UInt8) : BodyEncoding :=
  (markedEncoding? body).getD (zerosEncoding body)

/-- The text of a body. Places in a UTF-8 body are counted from behind its mark. -/
def bodyText (body : List UInt8) : Except DecodeError (List Char) :=
  match BodyEncoding.detect body with
  | .utf8 skip => Utf8.decodeFrom true 0 (body.drop skip)
  | .utf16 order skip => decode16 order skip (body.drop skip)
  | .utf32 order skip => decode32 order skip (body.drop skip)

/-- Why bytes are not read as a value. -/
inductive ReadError
  /-- The bytes are no text. -/
  | undecodable (e : DecodeError)
  /-- The text is not read. -/
  | text (e : TextError)
  deriving DecidableEq, Repr

/-- The value in a body. -/
def readBytes [Platform] (body : List UInt8) : Except ReadError Json :=
  match bodyText body with
  | .error e => .error (.undecodable e)
  | .ok chars => (readChars chars).mapError .text

/-- The body of a value, if it has one. -/
def bytes? (v : Json) : Option (List UInt8) :=
  v.print?.map Utf8.encode

end ApiClient.Json
