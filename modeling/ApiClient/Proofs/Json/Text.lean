import ApiClient.Json.Basic
import ApiClient.Number.Integer
import ApiClient.Text.Character

/-!
# JSON texts

Which texts stand for a value: with blanks between the tokens, with any escapes in strings, with
integers in decimal, and with the names of an object distinct. Numbers that are not finite have the
words that they are read from. An integer has no more digits than are read.
-/

namespace ApiClient.Json

/-- Blanks, or nothing. -/
def Blanks (s : List Char) : Prop :=
  ∀ c ∈ s, c = ' ' ∨ c = '\t' ∨ c = '\n' ∨ c = '\r'

instance (s : List Char) : Decidable (Blanks s) :=
  List.decidableBAll _ s

/-! ## Strings -/

/-- The characters that are written as a backslash and one more character, with that one. -/
def escapes : List (Char × Char) :=
  [('"', '"'), ('\\', '\\'), ('/', '/'), ('\x08', 'b'), ('\x0c', 'f'), ('\n', 'n'), ('\r', 'r'),
    ('\t', 't')]

/-- The last four hexadecimal digits of a number. -/
def hex4 (n : Nat) : List Char :=
  [n / 4096, n / 256, n / 16, n].map Text.hexDigit

/-- A character as it stands in a string: as it is, or by an escape, or by the code units of UTF-16,
with digits of either case. -/
inductive CharText : Char → List Char → Prop
  /-- The character itself. -/
  | plain {c : Char} (hquote : c ≠ '"') (hbackslash : c ≠ '\\') (hcontrol : 0x20 ≤ c.toNat) :
    CharText c [c]
  /-- An escape. -/
  | escape {c e : Char} (h : (c, e) ∈ escapes) : CharText c ['\\', e]
  /-- A code unit. -/
  | unit {c : Char} {digits : List Char} (hc : c.toNat < 0x10000)
    (hdigits : digits.map Char.toLower = hex4 c.toNat) : CharText c ('\\' :: 'u' :: digits)
  /-- A pair of code units. -/
  | pair {c : Char} {first second : List Char} (hc : 0x10000 ≤ c.toNat)
    (hfirst : first.map Char.toLower = hex4 (0xD800 + (c.toNat - 0x10000) / 1024))
    (hsecond : second.map Char.toLower = hex4 (0xDC00 + (c.toNat - 0x10000) % 1024)) :
    CharText c ('\\' :: 'u' :: first ++ '\\' :: 'u' :: second)

/-- Characters as they stand in a string. -/
inductive CharsText : List Char → List Char → Prop
  | nil : CharsText [] []
  | cons {c : Char} {chars t ts : List Char} (hc : CharText c t) (hchars : CharsText chars ts) :
    CharsText (c :: chars) (t ++ ts)

/-- A string with its quotation marks. -/
inductive StringText : String → List Char → Prop
  | quoted {s : String} {t : List Char} (h : CharsText s.toList t) : StringText s ('"' :: t ++ ['"'])

/-! ## Numbers -/

/-- The sign of a number. -/
def sign (negative : Bool) : List Char :=
  if negative then ['-'] else []

/-- Digits, at least one. -/
def Digits (s : List Char) : Prop :=
  s ≠ [] ∧ ∀ c ∈ s, c.isDigit = true

/-- The digits behind the point of a number, if there is a point. -/
inductive FractionText : List Char → List Char → Prop
  | none : FractionText [] []
  | some {digits : List Char} (h : Digits digits) : FractionText digits ('.' :: digits)

/-- The exponent of a number, if it has one. -/
inductive ExponentText : Int → List Char → Prop
  | none : ExponentText 0 []
  | plain {e : Char} {digits : List Char} (he : e = 'e' ∨ e = 'E') (h : Digits digits) :
    ExponentText (Nat.ofDigitChars 10 digits 0) (e :: digits)
  | plus {e : Char} {digits : List Char} (he : e = 'e' ∨ e = 'E') (h : Digits digits) :
    ExponentText (Nat.ofDigitChars 10 digits 0) (e :: '+' :: digits)
  | minus {e : Char} {digits : List Char} (he : e = 'e' ∨ e = 'E') (h : Digits digits) :
    ExponentText (-Nat.ofDigitChars 10 digits 0) (e :: '-' :: digits)

/-- A number with a fraction or an exponent: the floating point number next to it. -/
inductive FloatText : Binary64 → List Char → Prop
  | decimal {negative : Bool} {n : Nat} {decimals fraction power : List Char} {exponent : Int}
    (hfraction : FractionText decimals fraction) (hpower : ExponentText exponent power)
    (hfloat : fraction ++ power ≠ []) :
    FloatText
      (.ofDecimal negative (Nat.ofDigitChars 10 (Nat.toDigits 10 n ++ decimals) 0)
        (exponent - decimals.length))
      (sign negative ++ Nat.toDigits 10 n ++ fraction ++ power)

/-! ## Values -/

mutual

/-- A text stands for a value. -/
inductive Written : Json → List Char → Prop
  | null : Written .null "null".toList
  | bool (b : Bool) : Written (.bool b) (if b then "true" else "false").toList
  | nan : Written (.float .nan) "NaN".toList
  | infinity : Written (.float (.infinite false)) "Infinity".toList
  | minusInfinity : Written (.float (.infinite true)) "-Infinity".toList
  | int {n : Int} (h : (Nat.toDigits 10 n.natAbs).length ≤ Integer.maxDigits) :
    Written (.int n) (toString n).toList
  | float {x : Binary64} {t : List Char} (h : FloatText x t) : Written (.float x) t
  | str {s : String} {t : List Char} (h : StringText s t) : Written (.str s) t
  | noItems {b : List Char} (hb : Blanks b) : Written (.arr []) ('[' :: b ++ [']'])
  | arr {items : List Json} {b t : List Char} (hb : Blanks b) (h : ItemsWritten items t) :
    Written (.arr items) ('[' :: b ++ t)
  | noFields {b : List Char} (hb : Blanks b) : Written (.obj []) ('\x7b' :: b ++ ['\x7d'])
  | obj {fields : List (String × Json)} {b t : List Char} (hb : Blanks b)
    (hnames : (fields.map Prod.fst).Nodup) (h : FieldsWritten fields t) :
    Written (.obj fields) ('\x7b' :: b ++ t)

/-- A text stands for the items of an array, up to its closing bracket. -/
inductive ItemsWritten : List Json → List Char → Prop
  | last {v : Json} {t b : List Char} (h : Written v t) (hb : Blanks b) :
    ItemsWritten [v] (t ++ b ++ [']'])
  | more {v : Json} {items : List Json} {t b b' rest : List Char} (h : Written v t)
    (hb : Blanks b) (hb' : Blanks b') (hitems : ItemsWritten items rest) :
    ItemsWritten (v :: items) (t ++ b ++ ',' :: b' ++ rest)

/-- A text stands for a field, with the blanks behind it. -/
inductive FieldWritten : String × Json → List Char → Prop
  | field {name : String} {v : Json} {n b b' t b'' : List Char} (hname : StringText name n)
    (hb : Blanks b) (hb' : Blanks b') (h : Written v t) (hb'' : Blanks b'') :
    FieldWritten (name, v) (n ++ b ++ ':' :: b' ++ t ++ b'')

/-- A text stands for the fields of an object, up to its closing brace. -/
inductive FieldsWritten : List (String × Json) → List Char → Prop
  | last {f : String × Json} {t : List Char} (h : FieldWritten f t) :
    FieldsWritten [f] (t ++ ['\x7d'])
  | more {f : String × Json} {fields : List (String × Json)} {t b rest : List Char}
    (h : FieldWritten f t) (hb : Blanks b) (hfields : FieldsWritten fields rest) :
    FieldsWritten (f :: fields) (t ++ ',' :: b ++ rest)

end

end ApiClient.Json
