import ApiClient.Http.Percent
import ApiClient.Platform
import ApiClient.Text.Case

/-!
# Hosts

The host of an address: an IPv4 address, an IPv6 address in brackets, or a name. Four numbers with
dots between them have to be an IPv4 address, and a text in brackets an IPv6 address. A name with
characters beyond ASCII is kept in its ASCII form, which begins with a mark if the first part of the
name has such characters.
-/

namespace ApiClient.Host

/-- Whether `c` is an ASCII digit. -/
def isDigit (c : Char) : Bool :=
  '0' ≤ c && c ≤ '9'

/-- The parts of a text between the separators. -/
def splitOn (separator : Char) : List Char → List (List Char)
  | [] => [[]]
  | c :: rest =>
    if c = separator then [] :: splitOn separator rest
    else
      match splitOn separator rest with
      | [] => [[c]]
      | part :: parts => (c :: part) :: parts

/-- Whether a text consists of four runs of digits with dots between them. -/
def looksLikeIPv4 (s : List Char) : Bool :=
  let runs := splitOn '.' s
  runs.length = 4 && runs.all fun run => !run.isEmpty && run.all isDigit

/-- Whether a text is a decimal number up to 255 without a leading zero. -/
def isOctet (s : List Char) : Bool :=
  !s.isEmpty && s.all isDigit && s.length ≤ 3 && (s = ['0'] || s.head? ≠ some '0')
    && s.foldl (fun n c => n * 10 + (c.toNat - 0x30)) 0 ≤ 255

/-- Whether a text is an IPv4 address. -/
def isIPv4 (s : List Char) : Bool :=
  let octets := splitOn '.' s
  octets.length = 4 && octets.all isOctet

/-- Whether a text is one to four hexadecimal digits. -/
def isHextet (s : List Char) : Bool :=
  !s.isEmpty && s.length ≤ 4 && s.all fun c => (Text.hexValue? c).isSome

/-- Whether the parts between the colons make up an IPv6 address: eight numbers, or fewer with one
empty part for the zeros left out, which at either end of the address needs an empty end. -/
def areHextets (parts : List (List Char)) : Bool :=
  3 ≤ parts.length && parts.length ≤ 9 &&
    let inner := (parts.drop 1).dropLast
    match inner.filter List.isEmpty with
    | [] => parts.length = 8 && parts.all isHextet
    | [_] =>
      let skip := 1 + (inner.takeWhile fun p => !p.isEmpty).length
      let high := parts.take skip
      let low := parts.drop (skip + 1)
      let high := if high = [[]] then [] else high
      let low := if low = [[]] then [] else low
      high.all isHextet && low.all isHextet && high.length + low.length < 8
    | _ => false

/-- The parts of an IPv6 address, with an IPv4 address at its end counted as two numbers. -/
def ipv6Parts (s : List Char) : Option (List (List Char)) :=
  let parts := splitOn ':' s
  let last := parts.getLastD []
  if last.contains '.' then
    if 3 ≤ parts.length && isIPv4 last then some (parts.dropLast ++ [['0'], ['0']]) else none
  else some parts

/-- Whether a text is an IPv6 address, possibly with a zone behind a percent sign. -/
def isIPv6 (s : List Char) : Bool :=
  !s.contains '/' &&
    let zone := s.dropWhile (· ≠ '%')
    (zone.isEmpty || (zone.length ≥ 2 && !(zone.drop 1).contains '%')) &&
      match ipv6Parts (s.takeWhile (· ≠ '%')) with
      | some parts => areHextets parts
      | none => false

/-- The characters besides the unreserved ones that stand as they are in a host name. -/
def keepInName (c : Char) : Bool :=
  "!$&'()*+,;=\"\x60\x7b\x7d%|\\".toList.contains c

/-- Why a text is no host. -/
inductive Error
  /-- It looks like an IPv4 address and is none. -/
  | ipv4 (text : String)
  /-- It is in brackets and no IPv6 address. -/
  | ipv6 (text : String)
  /-- It has characters outside of ASCII and is no name. -/
  | international (text : String)
  deriving DecidableEq, Repr

variable [Platform]

/-- The host that a text denotes, an IPv6 address without its brackets. -/
def ofText (s : List Char) : Except Error (List Char) :=
  if s.isEmpty then .ok []
  else if looksLikeIPv4 s then
    if isIPv4 s then .ok s else .error (.ipv4 (String.ofList s))
  else if s.head? = some '[' && 2 ≤ s.length && s.getLast? = some ']' then
    let inner := (s.drop 1).dropLast
    if isIPv6 inner then .ok inner else .error (.ipv6 (String.ofList s))
  else if s.all (·.toNat < 0x80) then .ok (Percent.escape keepInName (s.map Char.toLower))
  else
    match Platform.idna.encode s with
    | some name => .ok name
    | none => .error (.international (String.ofList s))

/-- The mark of an ASCII form. -/
def formMark : List Char := "xn--".toList

/-- The host that is shown for a host: the name that an ASCII form stands for. -/
def shown (host : List Char) : Except String (List Char) :=
  if formMark.isPrefixOf host then Platform.idna.decode host else .ok host

end ApiClient.Host
