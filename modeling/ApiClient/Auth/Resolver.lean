import ApiClient.Auth.DotEnv
import ApiClient.Errors.Basic
import ApiClient.Log

/-!
# Looking up credentials

A resolver reads credentials from the environment, to which it adds the variables of a `.env` file
once, when it is made. It may remove what it has read. It logs where a value came from, and never
the value.
-/

namespace ApiClient

/-- What there is of a `.env` file. -/
inductive DotEnvFile
  /-- There is none. -/
  | absent
  /-- A file with this content. -/
  | present (content : List UInt8)
  /-- Loading fails. -/
  | failing (e : Outside)
  deriving DecidableEq, Repr

/-- The environment and the log that a resolver works on. -/
structure Surroundings where
  /-- The environment. -/
  env : Environment
  /-- The records written so far, in order. -/
  log : List LogRecord
  /-- The file that is found where none is named. -/
  found : DotEnvFile := .absent
  deriving DecidableEq, Repr

/-- A step of setting up a client, which keeps what it has done when it fails. -/
abbrev Setup := EStateM Error Surroundings

/-- A resolver. -/
structure Resolver where
  /-- The file. -/
  file : DotEnvFile
  /-- Whether the file has been loaded. -/
  loaded : Bool
  /-- The levels of the loggers. -/
  levels : Levels
  deriving DecidableEq, Repr

namespace Resolver

/-- The variable of the token. -/
def tokenName : String := "ANEXIA_TOKEN"

/-- The variable of the name of the key. -/
def keyIdName : String := "ANEXIA_KEY_ID"

/-- The variable of the secret of the key. -/
def keySecretName : String := "ANEXIA_KEY_SECRET"

/-- The logger of resolvers. -/
def loggerName : String := "anxcloud_core.auth.credentials"

/-- Writes a log record. -/
def log (r : Resolver) (level : Int) (message : String) : Setup Unit :=
  modify fun w => { w with log := w.log ++ r.levels.record loggerName level message }

/-- Loads the file into the environment. -/
def readFile (r : Resolver) : Setup Unit := do
  match r.file with
  | .absent => pure ()
  | .failing e => throw (.fault (.outside e))
  | .present content =>
    let w ← get
    if DotEnv.isDisabled w.env then pure ()
    else
      let (env, failure) := DotEnv.load w.env content
      set { w with env }
      match failure with
      | some f => throw (.fault f)
      | none => pure ()

/-- Whether loading may fail in this way without harm. -/
def isHarmless : Error → Bool
  | .fault (.outside e) => e.kind.family? = some .os
  | .fault .variableUnnamed => true
  | _ => false

/-- Loads the file, unless it has been loaded before. A file that cannot be read is only worth a
warning, if the failure gives its text. -/
def load (r : Resolver) : Setup Resolver := do
  if r.loaded then return r
  else
    try
      r.readFile
      r.log debugLevel "Loaded .env file for credential lookup"
    catch e =>
      if isHarmless e then
        match e.wording with
        | .ok text => r.log warningLevel ("Could not load .env file: " ++ text)
        | .error e => throw e
      else throw e
    return { r with loaded := true }

/-- A resolver; with `loads`, its file is loaded at once. -/
def make (levels : Levels) (file : DotEnvFile) (loads : Bool) : Setup Resolver :=
  let r := { file, loaded := false, levels }
  if loads then load r else pure r

/-- The value of a variable. With `removes`, the variable is removed. A value that is `required`
and missing is an error. -/
def resolve (r : Resolver) (name : Option String) (required removes : Bool) :
    Setup (Option String) := do
  let w ← get
  let found := (name.filter (· ≠ "")).bind fun name => (w.env.get? name).map fun v => (name, v)
  match found with
  | some (name, value) =>
    if removes then set { w with env := w.env.unset name }
    r.log debugLevel ("Using credential from environment variable " ++ name)
    return some value
  | none =>
    if required then throw (.credentialMissing (.ofVariable name))
    else return none

/-- The value of a variable that has to be set. -/
def require (r : Resolver) (name : String) (removes : Bool) : Setup String :=
  return (← r.resolve (some name) true removes).getD ""

/-- Fails with what is wrong with a credential. -/
def accept : Except CredentialError Credential → Setup Credential
  | .ok c => pure c
  | .error e => throw (.credential e)

/-- The token of the environment. -/
def resolveToken (r : Resolver) (removes : Bool) : Setup Credential := do
  accept (Credential.ofToken (← r.require tokenName removes))

/-- The key of the environment. Both variables are looked up before either is removed. -/
def resolveKey (r : Resolver) (removes : Bool) : Setup Credential := do
  let keyId ← r.require keyIdName false
  let secret ← r.require keySecretName false
  if removes then
    modify fun w => { w with env := (w.env.unset keyIdName).unset keySecretName }
  accept (Credential.ofKey keyId secret)

end Resolver

end ApiClient
