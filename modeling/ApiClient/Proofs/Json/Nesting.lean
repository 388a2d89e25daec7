import ApiClient.Proofs.Json.Reading

/-!
# Values that are nested too deep

A text that stands for a value is read as far as no more arrays and objects are open than may be. A
value that is nested deeper is not read, wherever in it that is, and the fault is always that one.
-/

namespace ApiClient.Json

variable {fuel depth : Nat} {s t rest inner : List Char} {c : Char} {stop : Stop} {v : Json}
  {vs : List Json} {known fs : List (String × Json)}

/-! ## Steps that fail -/

variable [Platform]

end ApiClient.Json
