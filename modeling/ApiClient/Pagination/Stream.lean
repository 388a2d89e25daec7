import ApiClient.Log
import ApiClient.Pagination.Page

/-!
# Streaming a listing

A producer walks a listing and hands its items over one by one to consumers. An item is put into a
queue, which holds one, and the producer goes on only when a consumer has taken it and acknowledged
it; so nothing is fetched ahead. A stream that is done, by its end or because it was cancelled,
hands over nothing more.

The steps here are those that no other step can come in between. Whatever order they come in is a
run; which order it is, is decided elsewhere.
-/

namespace ApiClient

/-- What passes through the queue. -/
inductive Offer (α : Type)
  /-- An item. -/
  | item (a : α)
  /-- The word that no item follows. -/
  | closing
  deriving DecidableEq, Repr

/-- Where the producer is. -/
inductive Producer (α : Type)
  /-- There is none. -/
  | absent
  /-- It has not begun. -/
  | waiting
  /-- It waits for the answer to its last call. -/
  | fetching
  /-- It waits for `a` to get into the queue. Behind `a` come the items `rest` of `page`. -/
  | offering (a : α) (rest : List α) (page : Page α)
  /-- Its item is in the queue, which it has not noticed yet. -/
  | offered (rest : List α) (page : Page α)
  /-- It waits for its item to be acknowledged. -/
  | handing (rest : List α) (page : Page α)
  /-- It has ended. -/
  | ended
  deriving DecidableEq, Repr

/-- What a consumer's call returns. -/
inductive Reply (α : Type)
  /-- An item. -/
  | item (a : α)
  /-- No item: the stream is done. -/
  | finished
  /-- No item: the call was interrupted. -/
  | interrupted
  /-- The stream is closed. -/
  | closed
  deriving DecidableEq, Repr

/-- A consumer's call for an item that has not returned. -/
structure Taker (α : Type) where
  /-- The call. -/
  id : Nat
  /-- What it has taken from the queue, which its caller has not noticed yet. -/
  taken : Option (Offer α)
  deriving DecidableEq, Repr

/-- The state of a stream. -/
structure Stream (α : Type) where
  /-- The queue. -/
  queue : List (Offer α)
  /-- The number of offers put into the queue and not acknowledged. -/
  unacknowledged : Nat
  /-- Whether the stream is done. -/
  done : Bool
  /-- The failure that ended the listing. -/
  failure : Option Outside
  /-- The producer. -/
  producer : Producer α
  /-- The calls for an item that have not returned. -/
  takers : List (Taker α)
  /-- The calls to close the stream that have not returned. -/
  closers : List Nat
  /-- The calls made on the listing, in order. -/
  calls : List (PageCall α)
  deriving DecidableEq, Repr

/-- A step of a stream. -/
inductive Action
  /-- The producer begins. -/
  | begin
  /-- The listing answers the producer. -/
  | answer
  /-- The producer's item gets into the queue. -/
  | put
  /-- The producer notices that it can go on. -/
  | proceed
  /-- The producer is stopped where it is. -/
  | kill
  /-- A consumer calls for an item. -/
  | request (id : Nat)
  /-- A call takes what is in the queue. -/
  | take (id : Nat)
  /-- A consumer notices that its call can return. -/
  | return (id : Nat)
  /-- A call is given up. -/
  | interrupt (id : Nat)
  /-- The stream is cancelled. -/
  | cancel
  /-- A consumer closes the stream: cancels it and waits for the producer to end. -/
  | close (id : Nat)
  /-- A consumer notices that its call to close the stream can return. -/
  | settle (id : Nat)
  deriving DecidableEq, Repr

namespace Stream

/-- The stream of a listing before anything has happened. -/
def start {α : Type} : Stream α where
  queue := []
  unacknowledged := 0
  done := false
  failure := none
  producer := .waiting
  takers := []
  closers := []
  calls := []

/-- A stream that no producer feeds. -/
def bare {α : Type} : Stream α :=
  { start with producer := .absent }

/-- The number of offers that the queue holds at most. -/
def capacity : Nat := 1

/-- Puts an offer into the queue. -/
def push {α : Type} (s : Stream α) (offer : Offer α) : Stream α :=
  { s with queue := s.queue ++ [offer], unacknowledged := s.unacknowledged + 1 }

/-- Ends the producer. Consumers of a stream that is not done are told. -/
def close {α : Type} (s : Stream α) : Stream α :=
  let s := { s with producer := .ended }
  if s.done then s else s.push .closing

/-- Makes the producer call the listing. -/
def fetch {α : Type} (s : Stream α) (call : PageCall α) : Stream α :=
  { s with producer := .fetching, calls := s.calls ++ [call] }

/-- Makes the producer go on with the items `rest` of `page`. -/
def continueWith {α : Type} (s : Stream α) (rest : List α) (page : Page α) : Stream α :=
  match rest with
  | a :: rest =>
    if s.done then { s with producer := .ended } else { s with producer := .offering a rest page }
  | [] => if page.isLast then s.close else s.fetch (.next page)

/-- Ends the producer after a failure of the listing. One that means "stop" makes the stream done,
and one that means "nothing found" counts as the end of the listing. Any other one is logged and
then kept, so that one whose text cannot be had is lost. -/
def fail {α : Type} (s : Stream α) (e : Outside) : Stream α :=
  match e.kind with
  | .cancelled => { s with done := true, producer := .ended }
  | .neverMet => s.close
  | _ =>
    match e.wording with
    | .ok _ => { s with failure := some e }.close
    | .error _ => s.close

/-- The call `id` for an item, if it has not returned. -/
def taker? {α : Type} (s : Stream α) (id : Nat) : Option (Taker α) :=
  s.takers.find? fun t => t.id = id

/-- A stream without the call `id` for an item. -/
def dismiss {α : Type} (s : Stream α) (id : Nat) : Stream α :=
  { s with takers := s.takers.filter fun t => t.id ≠ id }

/-- A stream after `action`, and what the call that returned in it, if any, returned; `none` if the
action cannot happen. -/
def step? {α : Type} (listing : Pageable α) (first : PageCall α) (s : Stream α) :
    Action → Option (Stream α × Option (Reply α))
  | .begin =>
    match s.producer with
    | .waiting => some (s.fetch first, none)
    | _ => none
  | .answer =>
    match s.producer with
    | .fetching =>
      match listing s.calls with
      | .ok page => some (s.continueWith page.content page, none)
      | .error e => some (s.fail e, none)
    | _ => none
  | .put =>
    match s.producer with
    | .offering a rest page =>
      if s.queue.length < capacity then
        some ({ s.push (.item a) with producer := .offered rest page }, none)
      else none
    | _ => none
  | .proceed =>
    match s.producer with
    | .offering .. => if s.done then some ({ s with producer := .ended }, none) else none
    | .offered rest page => some ({ s with producer := .handing rest page }, none)
    | .handing rest page =>
      if s.done then some ({ s with producer := .ended }, none)
      else if s.unacknowledged = 0 then some (s.continueWith rest page, none)
      else none
    | _ => none
  | .kill =>
    match s.producer with
    | .absent | .ended => none
    | .waiting => some ({ s with producer := .ended }, none)
    | _ => some ({ s with producer := .ended, done := true }, none)
  | .request id =>
    if (s.taker? id).isSome then none
    else if s.done then some (s, some .finished)
    else some ({ s with takers := s.takers ++ [{ id, taken := none }] }, none)
  | .take id =>
    match s.taker? id, s.queue with
    | some { taken := none, .. }, offer :: queue =>
      some ({ s with
        queue
        takers := s.takers.map fun t => if t.id = id then { t with taken := some offer } else t },
        none)
    | _, _ => none
  | .return id =>
    match s.taker? id with
    | none => none
    | some taker =>
      if s.done then some (s.dismiss id, some .finished)
      else
        match taker.taken, s.unacknowledged with
        | some (.item a), n + 1 =>
          some ({ s.dismiss id with unacknowledged := n }, some (.item a))
        | some .closing, n + 1 =>
          some ({ s.dismiss id with unacknowledged := n, done := true }, some .finished)
        | _, _ => none
  | .interrupt id =>
    match s.taker? id with
    | none => none
    | some _ => some (s.dismiss id, some .interrupted)
  | .cancel => some ({ s with done := true }, none)
  | .close id =>
    match s.producer with
    | .absent => some ({ s with done := true }, some .closed)
    | _ =>
      if id ∈ s.closers then none
      else some ({ s with done := true, closers := s.closers ++ [id] }, none)
  | .settle id =>
    match s.producer with
    | .ended =>
      if id ∈ s.closers then some ({ s with closers := s.closers.erase id }, some .closed) else none
    | _ => none

/-- The stream after `actions`, and what the calls that returned in them returned, in order; `none`
if one of the actions cannot happen. -/
def run? {α : Type} (listing : Pageable α) (first : PageCall α) (s : Stream α) :
    List Action → Option (Stream α × List (Reply α))
  | [] => some (s, [])
  | action :: rest => do
    let (s, reply) ← s.step? listing first action
    let (t, replies) ← run? listing first s rest
    return (t, reply.toList ++ replies)

/-- The logger of streams. -/
def loggerName : String := "anxcloud_core.pagination.engine"

/-- What is logged when a stream comes from `old` to `new`: a failure of the listing. -/
def records {α : Type} (levels : Levels) (old new : Stream α) : List LogRecord :=
  match old.failure, new.failure with
  | none, some e =>
    levels.record loggerName warningLevel
      ("Error while iterating pages, closing stream: " ++ e.message)
  | _, _ => []

end Stream

end ApiClient
