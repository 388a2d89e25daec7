import ApiClient.Text.Encoding

/-!
# UTF-16 and UTF-32

Reading texts in code units of two or four bytes. Half a pair that stands alone is read as the
replacement character, so only a cut unit and a number above the last character are failures.
-/

namespace ApiClient.Text

/-- The order of the bytes of a unit. -/
inductive ByteOrder
  | little
  | big
  deriving DecidableEq, Repr

/-- The number that two bytes in this order stand for. -/
def ByteOrder.unit16 : ByteOrder → UInt8 → UInt8 → Nat
  | .little, a, b => b.toNat * 256 + a.toNat
  | .big, a, b => a.toNat * 256 + b.toNat

/-- The number that four bytes in this order stand for. -/
def ByteOrder.unit32 (order : ByteOrder) (a b c d : UInt8) : Nat :=
  match order with
  | .little => order.unit16 c d * 65536 + order.unit16 a b
  | .big => order.unit16 a b * 65536 + order.unit16 c d

/-- The encoding in two-byte units of this order. -/
def ByteOrder.encoding16 : ByteOrder → Encoding
  | .little => .utf16le
  | .big => .utf16be

/-- The encoding in four-byte units of this order. -/
def ByteOrder.encoding32 : ByteOrder → Encoding
  | .little => .utf32le
  | .big => .utf32be

/-- Whether a unit is the first half of a pair. -/
def isFirstHalf (n : Nat) : Bool :=
  0xD800 ≤ n && n < 0xDC00

/-- Whether a unit is the second half of a pair. -/
def isSecondHalf (n : Nat) : Bool :=
  0xDC00 ≤ n && n < 0xE000

/-- The character of a code point, the replacement character for half a pair. -/
def charOrReplacement (n : Nat) : Char :=
  if isFirstHalf n || isSecondHalf n then '\uFFFD' else Char.ofNat n

/-- The character that two halves make up. -/
def joinHalves (first second : Nat) : Char :=
  Char.ofNat (0x10000 + (first - 0xD800) * 1024 + (second - 0xDC00))

/-- The text of a sequence of two-byte units. -/
def pairUnits : List Nat → List Char
  | [] => []
  | [u] => [charOrReplacement u]
  | u :: v :: rest =>
    if isFirstHalf u && isSecondHalf v then joinHalves u v :: pairUnits rest
    else charOrReplacement u :: pairUnits (v :: rest)

/-- The two-byte units of bytes that stand at `position`. -/
def units16 (order : ByteOrder) (position : Nat) : List UInt8 → Except DecodeError (List Nat)
  | [] => .ok []
  | [a] => .error { encoding := order.encoding16, position, bytes := [a], flaw := .unit }
  | a :: b :: rest => do return order.unit16 a b :: (← units16 order (position + 2) rest)

/-- The UTF-16 text of bytes that stand at `position`. -/
def decode16 (order : ByteOrder) (position : Nat) (bytes : List UInt8) :
    Except DecodeError (List Char) :=
  (units16 order position bytes).map pairUnits

/-- The UTF-32 text of bytes that stand at `position`. -/
def decode32 (order : ByteOrder) (position : Nat) : List UInt8 → Except DecodeError (List Char)
  | [] => .ok []
  | a :: b :: c :: d :: rest =>
    if 0x110000 ≤ order.unit32 a b c d then
      .error { encoding := order.encoding32, position, bytes := [a, b, c, d], flaw := .range }
    else do
      return charOrReplacement (order.unit32 a b c d) :: (← decode32 order (position + 4) rest)
  | cut => .error { encoding := order.encoding32, position, bytes := cut, flaw := .unit }

end ApiClient.Text
