import ApiClient.Auth.Resolver
import ApiClient.Text.Case

/-!
# Configuration

A client is configured by a list of options, applied in order. A later option replaces what an
earlier one of its kind has set, but there is one kind of credential only, and without any
credential a configuration has to say that it needs none.
-/

namespace ApiClient

/-- What carries the requests. -/
inductive TransportKind
  /-- The network. -/
  | network
  /-- A transport that the caller supplies and tells apart by a name. -/
  | supplied (name : String)
  deriving DecidableEq, Repr

/-- The configuration of a client. -/
structure Config where
  /-- The address of the server, without a slash at its end. -/
  baseUrl : String
  /-- The credential. -/
  credential : Option Credential
  /-- What carries the requests. -/
  transport : TransportKind
  /-- The name that the client gives itself. -/
  userAgent : String
  /-- The logger. -/
  logger : String
  /-- Whether failure responses are reported as errors. -/
  reportsFailures : Bool
  /-- The receiver of metrics, by the name that the caller tells it apart by. -/
  receiver : Option String := none
  /-- Whether metrics are delivered. -/
  measures : Bool := receiver.isSome
  /-- The version of the client. -/
  version : String
  deriving DecidableEq, Repr

/-- An option. -/
inductive ClientOption
  /-- Uses a token. -/
  | token (token : String)
  /-- Uses the token of the environment, and may remove it there. -/
  | tokenFromEnvironment (removes : Bool)
  /-- Uses a key. -/
  | key (keyId secret : String)
  /-- Uses the key of the environment, and may remove it there. -/
  | keyFromEnvironment (removes : Bool)
  /-- Uses another server. -/
  | baseUrl (url : String)
  /-- Sets the name that the client gives itself. -/
  | userAgent (name : String)
  /-- Sets the logger. -/
  | logger (name : String)
  /-- Uses a transport that the caller supplies under a name. -/
  | transport (name : String)
  /-- Says whether failure responses are reported as errors. -/
  | reportsFailures (reports : Bool)
  /-- Delivers metrics to a receiver that the caller supplies under a name. -/
  | receiver (name : String)
  /-- Allows a configuration without a credential. -/
  | credentialOptional
  /-- Sets the version. -/
  | version (version : String)
  /-- Uses another resolver for what is read from the environment. -/
  | resolver (file : DotEnvFile) (loads again : Bool)
  deriving DecidableEq, Repr

/-- The option for whatever credential the environment has: it looks for a token. -/
def ClientOption.credentialFromEnvironment (removes : Bool) : ClientOption :=
  .tokenFromEnvironment removes

namespace Config

/-- The server that is used unless an option says otherwise. -/
def defaultBaseUrl : String := "https://engine.anexia-it.com"

/-- The logger that is used unless an option says otherwise. -/
def defaultLogger : String := "anxcloud_core"

/-- The version of the library. -/
def libraryVersion : String := "0.1.0"

/-- The name that a client of a version gives itself on a system unless an option says
otherwise. -/
def defaultUserAgent (version system : String) : String :=
  "go-anxcloud/" ++ version ++ " (" ++ Text.lower system ++ ")"

/-- A text without the slashes at its end. -/
def dropSlashes (s : String) : String :=
  String.ofList (s.toList.reverse.dropWhile (· = '/')).reverse

/-- What options have set so far. -/
structure Draft where
  /-- The address of the server. -/
  baseUrl : String := defaultBaseUrl
  /-- The credential. -/
  credential : Option Credential := none
  /-- What carries the requests. -/
  transport : TransportKind := .network
  /-- The name that the client gives itself; empty for the default one. -/
  userAgent : String := ""
  /-- The logger. -/
  logger : String := defaultLogger
  /-- Whether failure responses are reported as errors. -/
  reportsFailures : Bool := true
  /-- The receiver of metrics, if they are delivered. -/
  receiver : Option String := none
  /-- The version of the client. -/
  version : String := libraryVersion
  /-- Whether there may be no credential. -/
  credentialOptional : Bool := false
  /-- The resolver, once there is one. -/
  resolver : Option Resolver := none
  deriving DecidableEq, Repr

namespace Draft

/-- Sets the credential, unless there is one of the other kind. -/
def setCredential (d : Draft) (c : Credential) : Except ConfigurationError Draft :=
  match d.credential with
  | some before =>
    if before.sameKind c then .ok { d with credential := some c }
    else .error (.mixedCredentials c.kindName before.kindName)
  | none => .ok { d with credential := some c }

/-- Sets the credential that a computation gives. -/
def useCredential (d : Draft) (c : Setup Credential) : Setup Draft := do
  match d.setCredential (← c) with
  | .ok d => return d
  | .error e => throw (.configuration e)

/-- The resolver, made now if there is none yet: it takes the file that is found. -/
def useResolver (levels : Levels) (d : Draft) : Setup (Resolver × Draft) := do
  match d.resolver with
  | some r => return (r, d)
  | none =>
    let r ← Resolver.make levels (← get).found true
    return (r, { d with resolver := some r })

/-- Applies an option. -/
def apply (levels : Levels) (d : Draft) : ClientOption → Setup Draft
  | .token token => d.useCredential (Resolver.accept (Credential.ofToken token))
  | .tokenFromEnvironment removes => do
    let (r, d) ← d.useResolver levels
    d.useCredential (r.resolveToken removes)
  | .key keyId secret => d.useCredential (Resolver.accept (Credential.ofKey keyId secret))
  | .keyFromEnvironment removes => do
    let (r, d) ← d.useResolver levels
    d.useCredential (r.resolveKey removes)
  | .baseUrl url => return { d with baseUrl := url }
  | .userAgent name => return { d with userAgent := name }
  | .logger name => return { d with logger := Levels.knownName name }
  | .transport name => return { d with transport := .supplied name }
  | .reportsFailures reports => return { d with reportsFailures := reports }
  | .receiver name => return { d with receiver := some name }
  | .credentialOptional => return { d with credentialOptional := true }
  | .version version => return { d with version }
  | .resolver file loads again => do
    let r ← Resolver.make levels file loads
    return { d with resolver := some (← if again then r.load else pure r) }

/-- The configuration that a draft amounts to on a system. -/
def finish (system : String) (d : Draft) : Except ConfigurationError Config :=
  if d.credential.isNone && !d.credentialOptional then .error .noCredential
  else
    .ok {
      baseUrl := dropSlashes d.baseUrl
      credential := d.credential
      transport := d.transport
      userAgent := if d.userAgent = "" then defaultUserAgent d.version system else d.userAgent
      logger := d.logger
      reportsFailures := d.reportsFailures
      receiver := d.receiver
      version := d.version }

end Draft

/-- The configuration made by options. -/
def build (levels : Levels) (system : String) (options : List ClientOption) : Setup Config := do
  let draft ← options.foldlM (Draft.apply levels) {}
  match draft.finish system with
  | .ok config => return config
  | .error e => throw (.configuration e)

end Config

end ApiClient
