import ApiClient.Text.CaseTable

/-!
# Letter case

Lower and upper case of whole texts, for all scripts. A capital sigma at the end of a word becomes
a final sigma; a few capital and small letters have two or three characters in the other case.
-/

namespace ApiClient.Text

/-- Whether `c` lies in one of the runs. -/
def inRanges (ranges : List (Nat × Nat)) (c : Char) : Bool :=
  ranges.any fun (first, last) => first ≤ c.toNat && c.toNat ≤ last

/-- The character that a table maps `c` to. -/
def mapByRows (rows : List (Nat × Nat × Nat × Int)) (c : Char) : Char :=
  match rows.find? fun (first, last, step, _) =>
      first ≤ c.toNat && c.toNat ≤ last && (c.toNat - first) % step = 0 with
  | some (_, _, _, offset) => Char.ofNat (c.toNat + offset).toNat
  | none => c

/-- Whether the nearest character that is not skipped has case. -/
def metByCased (neighbours : List Char) : Bool :=
  match neighbours.dropWhile (inRanges caseIgnorableRanges) with
  | c :: _ => inRanges casedRanges c
  | [] => false

/-- The lower case of `c`, where `before` stands in front of it, last character first, and `after`
behind it. -/
def lowerChar (before : List Char) (c : Char) (after : List Char) : List Char :=
  if c.toNat < 0x80 then [c.toLower]
  else if c = 'Σ' then [if metByCased before && !metByCased after then 'ς' else 'σ']
  else if c = 'İ' then ['i', '\u0307']
  else [mapByRows lowerRows c]

/-- The lower case of a text that follows `before`, last character first. -/
def lowerFrom (before : List Char) : List Char → List Char
  | [] => []
  | c :: rest => lowerChar before c rest ++ lowerFrom (c :: before) rest

/-- The lower case of a text. -/
def lower (s : String) : String :=
  String.ofList (lowerFrom [] s.toList)

/-- The upper case of one character. -/
def upperChar (c : Char) : List Char :=
  if c.toNat < 0x80 then [c.toUpper]
  else
    match upperExpansions.find? (·.1 = c.toNat) with
    | some (_, codes) => codes.map Char.ofNat
    | none => [mapByRows upperRows c]

/-- The upper case of a text. -/
def upper (s : String) : String :=
  String.ofList (s.toList.flatMap upperChar)

end ApiClient.Text
