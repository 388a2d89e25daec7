import ApiClient.Outside

/-!
# Bodies

The body of a message is held in memory, or it is a stream of chunks that comes once and may fail
at its end. A stream is read either in step with its reader or asynchronously. What was read is
held from then on; a stream that failed is spent.
-/

namespace ApiClient

/-- How a stream is read. -/
inductive StreamMode
  | blocking
  | async
  deriving DecidableEq, Repr

/-- A body. -/
inductive Body
  /-- A body in memory. -/
  | held (bytes : List UInt8)
  /-- A stream: its chunks, and the failure behind them if there is one. -/
  | stream (mode : StreamMode) (chunks : List (List UInt8)) (failure : Option Outside)
  /-- A stream that has failed. -/
  | spent (mode : StreamMode)
  deriving DecidableEq, Repr

/-- Why a body is not read. -/
inductive BodyError
  /-- The stream is to be read in the other mode. -/
  | otherMode
  /-- The stream failed. -/
  | failed (e : Outside)
  /-- The stream has failed before. -/
  | spent
  deriving DecidableEq, Repr

namespace Body

/-- How a body is to be read that is not held in memory. -/
def mode? : Body → Option StreamMode
  | held _ => none
  | stream mode _ _ | spent mode => some mode

/-- Reads a body: its bytes or why there are none, and the body afterwards. -/
def read (mode : StreamMode) : Body → Except BodyError (List UInt8) × Body
  | held bytes => (.ok bytes, held bytes)
  | stream m chunks failure =>
    if m ≠ mode then (.error .otherMode, stream m chunks failure)
    else
      match failure with
      | none => (.ok chunks.flatten, held chunks.flatten)
      | some e => (.error (.failed e), spent m)
  | spent m => (.error (if m ≠ mode then .otherMode else .spent), spent m)

end Body

end ApiClient
