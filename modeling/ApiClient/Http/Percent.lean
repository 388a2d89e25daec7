import ApiClient.Text.Utf8

/-!
# Percent encoding

In an address, a character that may not stand there as it is is written as the bytes of its UTF-8
form, each as a percent sign and two upper-case hexadecimal digits.
-/

namespace ApiClient.Percent

/-- The characters that are never escaped. -/
def isUnreserved (c : Char) : Bool :=
  c.isAlphanum || c = '-' || c = '.' || c = '_' || c = '~'

/-- The upper-case hexadecimal digit of a value below 16. -/
def digit (n : Nat) : Char :=
  (Text.hexDigit n).toUpper

/-- The escape of one byte. -/
def escapeByte (b : UInt8) : List Char :=
  ['%', digit (b.toNat / 16), digit (b.toNat % 16)]

/-- A character as it is if `keep` or unreserved, else escaped. -/
def escapeChar (keep : Char → Bool) (c : Char) : List Char :=
  if isUnreserved c || keep c then [c] else (String.utf8EncodeChar c).flatMap escapeByte

/-- A text with every character escaped that is neither unreserved nor kept. -/
def escape (keep : Char → Bool) (s : List Char) : List Char :=
  s.flatMap (escapeChar keep)

/-- The bytes of a text with its escapes resolved. A percent sign without two digits stands for
itself. -/
def unescapeBytes : List Char → List UInt8
  | [] => []
  | c :: rest =>
    if c = '%' then
      match rest with
      | a :: b :: after =>
        match Text.hexValue? a, Text.hexValue? b with
        | some x, some y => UInt8.ofNat (x * 16 + y) :: unescapeBytes after
        | _, _ => 0x25 :: unescapeBytes (a :: b :: after)
      | rest => 0x25 :: unescapeBytes rest
    else String.utf8EncodeChar c ++ unescapeBytes rest

/-- A text with its escapes resolved. -/
def unescape (s : List Char) : List Char :=
  Text.Utf8.decodeLenient (unescapeBytes s)

end ApiClient.Percent
