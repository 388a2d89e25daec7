import ApiClient.Fault

/-!
# The environment

The variables that credentials are read from: names with values, each name once.
-/

namespace ApiClient

/-- The variables that are set. -/
abbrev Environment := List (String × String)

namespace Environment

/-- The value of a variable. -/
def get? (env : Environment) (name : String) : Option String :=
  env.lookup name

/-- The environment without a variable. -/
def unset (env : Environment) (name : String) : Environment :=
  env.filter fun v => v.1 ≠ name

/-- The environment with a variable set. -/
def put (env : Environment) (name value : String) : Environment :=
  if env.any fun v => v.1 = name then
    env.map fun v => if v.1 = name then (name, value) else v
  else env ++ [(name, value)]

/-- Sets a variable. A name or value with a zero character, a name with an equals sign and the
empty name are refused. -/
def set (env : Environment) (name value : String) : Except Fault Environment :=
  if name.toList.contains '\x00' || value.toList.contains '\x00' then .error .variableValue
  else if name.toList.contains '=' then .error .variableName
  else if name = "" then .error .variableUnnamed
  else .ok (env.put name value)

end Environment

end ApiClient
