/-!
# Binary floating point numbers

Double precision numbers as exact values: a mantissa of at most 53 bits times a power of two. A
decimal is read as the nearest of them, ties to the even mantissa, and one of them is written with
the fewest digits that read back.
-/

namespace ApiClient

/-- A double precision number. A finite one is `mantissa * 2 ^ exponent`, where the mantissa has 53
bits unless the exponent is the least one. -/
inductive Binary64
  | finite (negative : Bool) (mantissa : Nat) (exponent : Int)
  | infinite (negative : Bool)
  | nan
  deriving DecidableEq, Repr

namespace Binary64

/-- The number of bits of a mantissa. -/
def precision : Nat := 53

/-- The exponent of the smallest numbers. -/
def leastExponent : Int := -1074

/-- The exponent of the largest numbers. -/
def greatestExponent : Int := 971

/-- Whether `x` is a zero of either sign. -/
def isZero : Binary64 → Bool
  | finite _ 0 _ => true
  | _ => false

/-! ## Reading -/

/-- `num / den` to the nearest natural number, a tie to the even one. -/
def roundDiv (num den : Nat) : Nat :=
  let q := num / den
  let r := num % den
  if 2 * r < den then q
  else if den < 2 * r then q + 1
  else q + q % 2

/-- The fraction `num / den` scaled by `2 ^ (-e)`, as numerator and denominator. -/
def scaled (num den : Nat) (e : Int) : Nat × Nat :=
  if 0 ≤ e then (num, den * Nat.pow 2 e.toNat) else (num * Nat.pow 2 (-e).toNat, den)

/-- The exponent of the number nearest to `num / den`: it leaves a mantissa of 53 bits, or is the
least exponent. -/
def exponentFor (num den : Nat) : Int :=
  let guess : Int := (Nat.log2 num : Int) - Nat.log2 den - (precision - 1 : Nat)
  let (n, d) := scaled num den guess
  max leastExponent (if n < d * Nat.pow 2 (precision - 1) then guess - 1 else guess)

/-- The number nearest to `num / den`. -/
def ofFraction (negative : Bool) (num den : Nat) : Binary64 :=
  if num = 0 then finite negative 0 leastExponent
  else
    let e := exponentFor num den
    let (n, d) := scaled num den e
    let m := roundDiv n d
    let (m, e) := if m = Nat.pow 2 precision then (Nat.pow 2 (precision - 1), e + 1) else (m, e)
    if greatestExponent < e then infinite negative else finite negative m e

/-- The number nearest to `digits * 10 ^ exponent`. A decimal of 400 digits before the point is
infinite, and one whose first digit is 400 places behind it is zero. -/
def ofDecimal (negative : Bool) (digits : Nat) (exponent : Int) : Binary64 :=
  let magnitude := exponent + (Nat.toDigits 10 digits).length
  if digits = 0 ∨ magnitude < -400 then finite negative 0 leastExponent
  else if 400 < magnitude then infinite negative
  else if 0 ≤ exponent then ofFraction negative (digits * Nat.pow 10 exponent.toNat) 1
  else ofFraction negative digits (Nat.pow 10 (-exponent).toNat)

/-! ## Writing -/

/-- A finite magnitude and the neighbourhood of reals that read as it, all over one denominator. -/
structure Neighbourhood where
  /-- The lower end. -/
  low : Nat
  /-- The magnitude itself. -/
  value : Nat
  /-- The upper end. -/
  high : Nat
  /-- The common denominator. -/
  den : Nat
  /-- Whether the ends belong to the neighbourhood. -/
  closed : Bool

/-- The neighbourhood of `mantissa * 2 ^ exponent`: half way to the numbers next to it. -/
def neighbourhood (mantissa : Nat) (exponent : Int) : Neighbourhood :=
  let narrow := mantissa = Nat.pow 2 (precision - 1) ∧ leastExponent < exponent
  let low := if narrow then 4 * mantissa - 1 else 4 * mantissa - 2
  let factor := Nat.pow 2 (exponent - 2).toNat
  { low := low * factor
    value := 4 * mantissa * factor
    high := (4 * mantissa + 2) * factor
    den := Nat.pow 2 (2 - exponent).toNat
    closed := mantissa % 2 = 0 }

/-- Whether `num / den` reads as the number. -/
def Neighbourhood.contains (b : Neighbourhood) (num den : Nat) : Bool :=
  let x := num * b.den
  if b.closed then b.low * den ≤ x && x ≤ b.high * den else b.low * den < x && x < b.high * den

/-- The decimal `digits * 10 ^ exponent` as a fraction. -/
def decimalFraction (digits : Nat) (exponent : Int) : Nat × Nat :=
  (digits * Nat.pow 10 exponent.toNat, Nat.pow 10 (-exponent).toNat)

/-- The multiple of `10 ^ exponent` nearest to the number among those that read as it, a tie to the
even one. -/
def Neighbourhood.onGrid? (b : Neighbourhood) (exponent : Int) : Option Nat :=
  let num := b.value * Nat.pow 10 (-exponent).toNat
  let den := b.den * Nat.pow 10 exponent.toNat
  let below := num / den
  let rest := num % den
  let fits := fun digits =>
    let (n, d) := decimalFraction digits exponent
    b.contains n d
  if fits below && (2 * rest < den || (2 * rest = den && below % 2 = 0) || !fits (below + 1)) then
    some below
  else if fits (below + 1) then some (below + 1)
  else none

/-- The least `n` with `num / den < 10 ^ n`. -/
def decimalMagnitude (num den : Nat) : Int :=
  let guess : Int := (Nat.toDigits 10 num).length - (Nat.toDigits 10 den).length
  let (n, d) := decimalFraction den guess
  if num * d < n then guess else guess + 1

/-- Digits and exponent of the shortest decimal that reads as the number; of `count` digits or
more, at most seventeen. -/
def Neighbourhood.shortest (b : Neighbourhood) (magnitude : Int) : Nat → Nat × Int
  | 0 => (0, 0)
  | tries + 1 =>
    let exponent := magnitude - (17 - tries : Int)
    match b.onGrid? exponent with
    | some digits => (digits, exponent)
    | none => b.shortest magnitude tries

/-- `digits * 10 ^ exponent` without trailing zeros in `digits`. -/
def dropZeros (fuel digits : Nat) (exponent : Int) : Nat × Int :=
  match fuel with
  | 0 => (digits, exponent)
  | fuel + 1 =>
    if digits % 10 = 0 then dropZeros fuel (digits / 10) (exponent + 1) else (digits, exponent)

/-- Digits and exponent of the shortest decimal that reads as `mantissa * 2 ^ exponent`. -/
def shortestDecimal (mantissa : Nat) (exponent : Int) : Nat × Int :=
  let b := neighbourhood mantissa exponent
  let (digits, e) := b.shortest (decimalMagnitude b.value b.den) 17
  dropZeros 20 digits e

/-- The text of the decimal `digits * 10 ^ exponent`: positional from `0.0001` up to below
`10 ^ 16`, with at least one digit behind the point, else with an exponent of two digits or more. -/
def decimalText (digits : Nat) (exponent : Int) : List Char :=
  let ds := Nat.toDigits 10 digits
  let point := exponent + ds.length
  if -4 < point ∧ point ≤ 16 then
    if point ≤ 0 then '0' :: '.' :: List.replicate (-point).toNat '0' ++ ds
    else if 0 ≤ exponent then ds ++ List.replicate exponent.toNat '0' ++ ['.', '0']
    else ds.take point.toNat ++ '.' :: ds.drop point.toNat
  else
    let e := point - 1
    let es := Nat.toDigits 10 e.natAbs
    let mantissa := match ds with
      | [] => []
      | [d] => [d]
      | d :: rest => d :: '.' :: rest
    mantissa ++ 'e' :: (if e < 0 then '-' else '+')
      :: List.replicate (2 - es.length) '0' ++ es

/-- The text of a number. -/
def text : Binary64 → String
  | nan => "nan"
  | infinite negative => if negative then "-inf" else "inf"
  | finite negative mantissa exponent =>
    let magnitude :=
      if mantissa = 0 then ['0', '.', '0']
      else
        let (digits, e) := shortestDecimal mantissa exponent
        decimalText digits e
    String.ofList (if negative then '-' :: magnitude else magnitude)

/-! ## Value -/

/-- The integer part of `mantissa * 2 ^ exponent`. -/
def wholePart (mantissa : Nat) (exponent : Int) : Nat :=
  mantissa * Nat.pow 2 exponent.toNat / Nat.pow 2 (-exponent).toNat

/-- Whether the number is the integer `n`. -/
def equalsInt (x : Binary64) (n : Int) : Bool :=
  match x with
  | finite negative mantissa exponent =>
    let num : Int := mantissa * Nat.pow 2 exponent.toNat
    (if negative then -num else num) = n * Nat.pow 2 (-exponent).toNat
  | _ => false

/-- Whether two numbers are equal: zeros of either sign are, a number that is none is not equal to
itself. -/
def equal : Binary64 → Binary64 → Bool
  | nan, _ => false
  | _, nan => false
  | x, y => x = y || (x.isZero && y.isZero)

end Binary64

end ApiClient
