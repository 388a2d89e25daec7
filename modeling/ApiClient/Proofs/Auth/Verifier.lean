import ApiClient.Proofs.Auth.Edit
import ApiClient.Http.Url.Host

/-!
# Verifying signed requests

A verifier of signatures, which looks at nothing but a request. It reads from the authorization
field which lines have been signed, makes them anew from the request, and compares their keyed
digest with the signature. `Statement.read_fieldValue` says that it reads back what a signer states.
-/

namespace ApiClient.Signature

/-- The parameters `name="value"` of a text, with a comma after each but the last. -/
def parameters (s : List Char) : List (String × String) :=
  match _h : s.dropWhile (· ≠ '"') with
  | [] => []
  | _ :: rest =>
    (String.ofList (s.takeWhile (· ≠ '=')), String.ofList (rest.takeWhile (· ≠ '"')))
      :: parameters ((rest.dropWhile (· ≠ '"')).drop 2)
termination_by s.length
decreasing_by
  have hrest : rest.length < s.length := by
    have := (List.dropWhile_sublist (l := s) (· ≠ '"')).length_le
    rw [_h] at this
    exact this
  have := (List.dropWhile_sublist (l := rest) (· ≠ '"')).length_le
  rw [List.length_drop]
  omega

/-- What the authorization field of a signed request states. -/
structure Statement where
  /-- The name of the key. -/
  keyId : String
  /-- The method of the signature. -/
  algorithm : String
  /-- The signature. -/
  signature : String
  /-- The names of the signed lines, in order. -/
  names : List String
  deriving DecidableEq, Repr

/-- Reads the value of an authorization field. -/
def Statement.read? (value : String) : Option Statement := do
  let scheme := value.toList.takeWhile (· ≠ ' ')
  if scheme ≠ "Signature".toList then none
  let stated := parameters ((value.toList.dropWhile (· ≠ ' ')).drop 1)
  return {
    keyId := ← stated.lookup "keyId"
    algorithm := ← stated.lookup "algorithm"
    signature := ← stated.lookup "signature"
    names := (Host.splitOn ' ' (← stated.lookup "headers").toList).map String.ofList }

/-- What a request states that has a single authorization field. -/
def stated? (r : Request) : Option Statement :=
  match r.headers.valuesOf (Headers.fieldKey "Authorization") with
  | [value] => Statement.read? value
  | _ => none

/-- The line that a verifier makes for a name: from method and target, or from the field of that
name. -/
def lineOf (r : Request) (name : String) : String :=
  if name = targetName then line name (Text.lower r.method ++ " " ++ r.url.target)
  else line name ((r.headers.get? name).getD "")

/-! ## Reading what has been stated -/

theorem takeWhile_ne {s : List Char} {c : Char} (hs : c ∉ s) (rest : List Char) :
    (s ++ c :: rest).takeWhile (· ≠ c) = s := by
  have hall : ∀ d ∈ s, decide (d ≠ c) = true := fun d hd => decide_eq_true fun h => hs (h ▸ hd)
  rw [List.takeWhile_append_of_pos hall, List.takeWhile_cons_of_neg (by simp), List.append_nil]

theorem dropWhile_ne {s : List Char} {c : Char} (hs : c ∉ s) (rest : List Char) :
    (s ++ c :: rest).dropWhile (· ≠ c) = c :: rest := by
  have hall : ∀ d ∈ s, decide (d ≠ c) = true := fun d hd => decide_eq_true fun h => hs (h ▸ hd)
  rw [List.dropWhile_append_of_pos hall, List.dropWhile_cons_of_neg (by simp)]

/-- The text of a parameter. -/
def parameterText (name value : String) : List Char :=
  name.toList ++ '=' :: '"' :: (value.toList ++ ['"'])

/-- A parameter is read back, and what comes after it and one more character is read next. -/
theorem parameters_append {name value : String} (hequals : '=' ∉ name.toList)
    (hname : '"' ∉ name.toList) (hvalue : '"' ∉ value.toList) (rest : List Char) :
    parameters (parameterText name value ++ rest) = (name, value) :: parameters (rest.drop 1) := by
  have htext : parameterText name value ++ rest =
      name.toList ++ '=' :: '"' :: (value.toList ++ '"' :: rest) := by
    simp [parameterText]
  have hbefore : (name.toList ++ '=' :: '"' :: (value.toList ++ '"' :: rest)).dropWhile (· ≠ '"') =
      '"' :: (value.toList ++ '"' :: rest) := by
    have hnone : '"' ∉ name.toList ++ ['='] := by simp [hname]
    rw [List.append_cons]
    exact dropWhile_ne hnone _
  rw [htext, parameters, hbefore]
  simp only [takeWhile_ne hequals]
  rw [takeWhile_ne hvalue, dropWhile_ne hvalue]
  simp

/-- The text of a signer's statement. -/
theorem fieldValue_toList (keyId signature : String) (names : List String) :
    (fieldValue keyId signature names).toList = "Signature".toList ++ ' ' ::
      (parameterText "keyId" keyId ++ ',' :: (parameterText "algorithm" "hmac-sha512" ++
        ',' :: (parameterText "signature" signature ++ ',' ::
          (parameterText "headers" (listed names) ++ [])))) := by
  -- the fixed parts are given names, as their characters are compared only here
  have hparts : ∀ opening middle ahead closing : String,
      opening.toList = "Signature".toList ++ ' ' :: ("keyId".toList ++ ['=', '"']) →
      middle.toList = '"' :: ',' :: ("algorithm".toList ++ '=' :: '"' :: ("hmac-sha512".toList ++
        '"' :: ',' :: ("signature".toList ++ ['=', '"']))) →
      ahead.toList = '"' :: ',' :: ("headers".toList ++ ['=', '"']) → closing.toList = ['"'] →
      (opening ++ keyId ++ middle ++ signature ++ ahead ++ listed names ++ closing).toList =
        "Signature".toList ++ ' ' :: (parameterText "keyId" keyId ++ ',' ::
          (parameterText "algorithm" "hmac-sha512" ++ ',' :: (parameterText "signature" signature ++
            ',' :: (parameterText "headers" (listed names) ++ [])))) := by
    intro opening middle ahead closing hopening hmiddle hahead hclosing
    simp only [parameterText, String.toList_append, hopening, hmiddle, hahead, hclosing,
      List.append_assoc, List.cons_append, List.nil_append, List.append_nil]
  exact hparts _ _ _ _ rfl rfl rfl rfl

/-- A signer's statement is read back, if neither the name of the key nor the signature has a
quotation mark. -/
theorem Statement.read_fieldValue {keyId signature : String} {names : List String}
    (hkey : '"' ∉ keyId.toList) (hsignature : '"' ∉ signature.toList)
    (hnames : '"' ∉ (listed names).toList) :
    Statement.read? (fieldValue keyId signature names) = some {
      keyId, algorithm := "hmac-sha512", signature
      names := (Host.splitOn ' ' (listed names).toList).map String.ofList } := by
  have hscheme : ' ' ∉ "Signature".toList := by decide
  have hstated : parameters (parameterText "keyId" keyId ++ ',' ::
      (parameterText "algorithm" "hmac-sha512" ++ ',' :: (parameterText "signature" signature ++
        ',' :: (parameterText "headers" (listed names) ++ [])))) =
      [("keyId", keyId), ("algorithm", "hmac-sha512"), ("signature", signature),
        ("headers", listed names)] := by
    rw [parameters_append (by decide) (by decide) hkey, List.drop_one, List.tail_cons,
      parameters_append (by decide) (by decide) (by decide), List.drop_one, List.tail_cons,
      parameters_append (by decide) (by decide) hsignature, List.drop_one, List.tail_cons,
      parameters_append (by decide) (by decide) hnames, List.drop_nil, parameters]
    rfl
  unfold Statement.read?
  rw [fieldValue_toList, takeWhile_ne hscheme, dropWhile_ne hscheme,
    List.drop_one, List.tail_cons, hstated]
  rfl

end ApiClient.Signature
