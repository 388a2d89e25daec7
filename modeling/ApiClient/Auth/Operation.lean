import ApiClient.Auth.Resolver

/-!
# Operations of a resolver

A resolver serves one operation after another, each in the surroundings that the last one left. An
operation that fails is over, and the resolver goes on with the next.
-/

namespace ApiClient.Resolver

/-- What a resolver is asked to do. -/
inductive Operation
  /-- To load its file, which may be another one by now. -/
  | load (file : DotEnvFile)
  /-- To read a variable. -/
  | value (name : Option String) (required removes : Bool)
  /-- To read the token. -/
  | token (removes : Bool)
  /-- To read the key. -/
  | key (removes : Bool)
  deriving DecidableEq, Repr

/-- The variables that an operation is to remove. -/
def Operation.removed : Operation → List String
  | .load _ => []
  | .value name _ removes => if removes then (name.filter (· ≠ "")).toList else []
  | .token removes => if removes then [tokenName] else []
  | .key removes => if removes then [keyIdName, keySecretName] else []

/-- Performs an operation. -/
def perform (r : Resolver) : Operation → Setup Resolver
  | .load file => load { r with file }
  | .value name required removes => do
    let _ ← r.resolve name required removes
    return r
  | .token removes => do
    let _ ← r.resolveToken removes
    return r
  | .key removes => do
    let _ ← r.resolveKey removes
    return r

/-- A resolver and its surroundings after one more operation. -/
def step (s : Resolver × Surroundings) (op : Operation) : Resolver × Surroundings :=
  match (s.1.perform op).run s.2 with
  | .ok r w => (r, w)
  | .error _ w => (s.1, w)

/-- A resolver and its surroundings after some more operations. -/
def serve (s : Resolver × Surroundings) (ops : List Operation) : Resolver × Surroundings :=
  ops.foldl step s

end ApiClient.Resolver
