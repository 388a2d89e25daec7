/-!
# Logging

Log records are written on loggers with dotted names. A logger without a level of its own has that
of the nearest logger above it, and a record is kept if its level is at least that of its logger.
-/

namespace ApiClient

/-- The level of records that show requests and responses in full. -/
def traceLevel : Int := 5

/-- The level of records about the working of the library. -/
def debugLevel : Int := 10

/-- The level of warnings. -/
def warningLevel : Int := 30

/-- The levels that are set, by the names of their loggers. A level of zero counts as not set. -/
abbrev Levels := List (String × Int)

/-- Further fields of a record about a request or a response. -/
structure TraceFields where
  /-- The address of the request. -/
  url : Option String
  /-- The method of the request. -/
  method : Option String
  /-- The status of the response. -/
  status : Option Int
  /-- The header fields. -/
  headers : String
  /-- The body, if there is one. -/
  body : Option String
  deriving DecidableEq, Repr

/-- A log record. -/
structure LogRecord where
  /-- The name of the logger. -/
  logger : String
  /-- The level. -/
  level : Int
  /-- The message. -/
  message : String
  /-- Further fields. -/
  fields : Option TraceFields := none
  deriving DecidableEq, Repr

namespace Levels

/-- Whether a name is that of the root logger. -/
def isRoot (name : String) : Bool :=
  name = "" || name = "root"

/-- The name by which a logger is known. -/
def knownName (name : String) : String :=
  if isRoot name then "root" else name

/-- The level set for a logger, unless it is zero. -/
def own? (levels : Levels) (name : String) : Option Int :=
  (levels.lookup name).filter (· ≠ 0)

/-- The names in front of the dots of a name that is given in reverse, the longest first. A dot at
the beginning of the name does not count, and neither does one right in front of a dot that counts;
`afterDot` says whether such a dot has just been read. -/
def aboveReversed (afterDot : Bool) : List Char → List String
  | [] => []
  | c :: before =>
    if c = '.' && !afterDot && !before.isEmpty then
      String.ofList before.reverse :: aboveReversed true before
    else aboveReversed false before

/-- The names above a name, nearest first. -/
def above (name : String) : List String :=
  aboveReversed false name.toList.reverse

/-- The level of the root logger: the last one set under either of its names. -/
def rootLevel (levels : Levels) : Int :=
  levels.foldl (fun level (name, value) => if isRoot name then value else level) warningLevel

/-- The level that counts for a logger. -/
def effective (levels : Levels) (name : String) : Int :=
  if isRoot name then levels.rootLevel
  else ((name :: above name).findSome? levels.own?).getD levels.rootLevel

/-- Whether a logger keeps records of a level. -/
def keeps (levels : Levels) (name : String) (level : Int) : Bool :=
  levels.effective name ≤ level

/-- The name of the logger `name` below a logger. -/
def child (logger name : String) : String :=
  if isRoot logger then name else logger ++ "." ++ name

/-- Whether the logger `name` below a logger keeps records of a level. -/
def childKeeps (levels : Levels) (logger name : String) (level : Int) : Bool :=
  (levels.own? (child logger name)).getD (levels.effective logger) ≤ level

/-- A record without further fields, if it is kept. -/
def record (levels : Levels) (logger : String) (level : Int) (message : String) :
    List LogRecord :=
  if levels.keeps logger level then [{ logger, level, message }] else []

end Levels

end ApiClient
