import ApiClient.Text.Encoding

/-!
# UTF-8

Reading and writing UTF-8. Bytes fall apart into encoded characters and flawed runs: a flawed run
is the longest beginning of a character that the next byte, or the end, breaks off, or else a
single byte. Strict reading reports the first flawed run; lenient reading puts the replacement
character in the place of each.
-/

namespace ApiClient.Text.Utf8

/-- What a byte string begins with. -/
inductive Head
  /-- A character of `length` bytes. -/
  | char (c : Char) (length : Nat)
  /-- A flawed run of `length` bytes. -/
  | flawed (flaw : Flaw) (length : Nat)

/-- Whether `b` continues a character. -/
def isContinuation (b : UInt8) : Bool :=
  0x80 ≤ b && b < 0xC0

/-- Whether `b` may follow the first byte `lead`: the shortest form of a character is the only one,
halves of pairs are no characters, and the last character is U+10FFFF. -/
def continues (lead b : UInt8) : Bool :=
  isContinuation b &&
    if lead = 0xE0 then 0xA0 ≤ b
    else if lead = 0xED then b < 0xA0
    else if lead = 0xF0 then 0x90 ≤ b
    else if lead = 0xF4 then b < 0x90
    else true

/-- The six payload bits of a continuation byte. -/
def payload (b : UInt8) : Nat :=
  b.toNat % 64

/-- The character or flawed run at the front of `b :: rest`. -/
def head (b : UInt8) (rest : List UInt8) : Head :=
  if b < 0x80 then .char (Char.ofNat b.toNat) 1
  else if b < 0xC2 then .flawed .start 1
  else if b < 0xE0 then
    match rest with
    | [] => .flawed .ending 1
    | b1 :: _ =>
      if isContinuation b1 then .char (Char.ofNat (b.toNat % 32 * 64 + payload b1)) 2
      else .flawed .continuation 1
  else if b < 0xF0 then
    match rest with
    | [] => .flawed .ending 1
    | b1 :: rest =>
      if !continues b b1 then .flawed .continuation 1
      else
        match rest with
        | [] => .flawed .ending 2
        | b2 :: _ =>
          if isContinuation b2 then
            .char (Char.ofNat ((b.toNat % 16 * 64 + payload b1) * 64 + payload b2)) 3
          else .flawed .continuation 2
  else if b < 0xF5 then
    match rest with
    | [] => .flawed .ending 1
    | b1 :: rest =>
      if !continues b b1 then .flawed .continuation 1
      else
        match rest with
        | [] => .flawed .ending 2
        | b2 :: rest =>
          if !isContinuation b2 then .flawed .continuation 2
          else
            match rest with
            | [] => .flawed .ending 3
            | b3 :: _ =>
              if isContinuation b3 then
                .char (Char.ofNat
                  (((b.toNat % 8 * 64 + payload b1) * 64 + payload b2) * 64 + payload b3)) 4
              else .flawed .continuation 3
  else .flawed .start 1

/-- The bytes of half a pair, which no character has: they begin with ED and A0 or more. -/
def isHalfOfPair : List UInt8 → Bool
  | b0 :: b1 :: b2 :: _ => b0 = 0xED && 0xA0 ≤ b1 && isContinuation b1 && isContinuation b2
  | _ => false

/-- The text of `bytes`, which stand at `position`. With `halves`, an encoded half of a pair is
read as the replacement character. -/
def decodeFrom (halves : Bool) (position : Nat) (bytes : List UInt8) :
    Except DecodeError (List Char) :=
  match bytes with
  | [] => .ok []
  | b :: rest =>
    if halves && isHalfOfPair (b :: rest) then do
      return '\uFFFD' :: (← decodeFrom halves (position + 3) (rest.drop 2))
    else
      match head b rest with
      | .char c length => do
        return c :: (← decodeFrom halves (position + length) (rest.drop (length - 1)))
      | .flawed flaw length =>
        .error { encoding := .utf8, position, bytes := (b :: rest).take length, flaw }
termination_by bytes.length
decreasing_by all_goals simp only [List.length_cons, List.length_drop]; omega

/-- The text that `bytes` are the UTF-8 form of. -/
def decode (bytes : List UInt8) : Except DecodeError (List Char) :=
  decodeFrom false 0 bytes

/-- The text of `bytes` with a replacement character for each flawed run. -/
def decodeLenient (bytes : List UInt8) : List Char :=
  match bytes with
  | [] => []
  | b :: rest =>
    match head b rest with
    | .char c length => c :: decodeLenient (rest.drop (length - 1))
    | .flawed _ length => '\uFFFD' :: decodeLenient (rest.drop (length - 1))
termination_by bytes.length
decreasing_by all_goals simp only [List.length_cons, List.length_drop]; omega

/-- The UTF-8 form of a text. -/
def encode (s : List Char) : List UInt8 :=
  s.flatMap String.utf8EncodeChar

end ApiClient.Text.Utf8
