import ApiClient.Pagination.Stream

/-!
# Running a stream

A session runs a stream and its consumers side by side, in turns. What is ready to run stands in a
queue; a turn runs all that was ready when it began, in order, and what becomes ready meanwhile is
for the next turn. So a session is one run of the steps of `Stream`, and the order of the queue is
what decides between them.

The producer and each call wait in the same way: for an operation of their own (to put an item, to
have it acknowledged, to take one) and for the end of the stream, whichever comes first. Each of
the two runs on its own, and whoever waits is woken two turns after the first of them is through.
-/

namespace ApiClient

/-- Who waits. -/
inductive Party
  /-- The producer. -/
  | producer
  /-- A call of a consumer. -/
  | call (id : Nat)
  deriving DecidableEq, Repr

/-- Something that is ready to run. Waits are numbered, and what belongs to a wait that is over has
nothing left to do. -/
inductive Wakeup
  /-- The producer or a call goes on. -/
  | party (p : Party)
  /-- The operation of a wait runs, for the first time or because it was woken. -/
  | operation (p : Party) (wait : Nat) (woken : Bool)
  /-- The part of a wait that looks for the end of the stream runs. -/
  | watch (p : Party) (wait : Nat)
  /-- A wait learns that one of its two parts is through. -/
  | notify (p : Party) (wait : Nat)
  /-- A call that closes the stream learns that the producer has ended. -/
  | producerEnded (id : Nat)
  deriving DecidableEq, Repr

/-- What a call of a consumer does. -/
inductive Program
  /-- Asks for one item. -/
  | next
  /-- Iterates, up to `limit` items if there is a limit, and then may cancel the stream. -/
  | consume (limit : Option Nat) (cancels : Bool)
  /-- Iterates, up to `limit` items if there is a limit, and closes the stream in any case. -/
  | visit (limit : Option Nat)
  /-- Closes the stream: cancels it and waits for the producer to end. -/
  | close
  deriving DecidableEq, Repr

/-- What a call of a consumer returns. -/
inductive CallResult (α : Type)
  /-- An item. -/
  | item (a : α)
  /-- No item: the stream is done. -/
  | finished
  /-- The items of an iteration, and whether the stream ended it. -/
  | items (items : List α) (ended : Bool)
  /-- The stream is closed. -/
  | closed
  /-- The call was interrupted; an iteration gives the items it had. -/
  | interrupted (items : Option (List α))
  deriving DecidableEq, Repr

/-- Where a call is. -/
inductive CallState (α : Type)
  /-- It has not begun. -/
  | starting
  /-- It waits for an item. -/
  | waiting
  /-- It waits for the producer to end and then returns `result`. -/
  | closing (result : CallResult α)
  deriving DecidableEq, Repr

/-- A call that has not returned. -/
structure Call (α : Type) where
  /-- The number of the call. -/
  id : Nat
  /-- What it does. -/
  program : Program
  /-- The items it has. -/
  items : List α
  /-- Where it is. -/
  state : CallState α
  /-- Whether it is to be interrupted when it goes on. -/
  interrupted : Bool
  deriving DecidableEq, Repr

/-- A wait of the producer or of a call. -/
structure Wait where
  /-- Who waits. -/
  party : Party
  /-- The number of the wait. -/
  number : Nat
  /-- Whether it will go on in any case. -/
  notified : Bool
  deriving DecidableEq, Repr

/-- The state of a session. -/
structure Session (α : Type) where
  /-- The stream. -/
  stream : Stream α
  /-- What is ready to run, in order. -/
  ready : List Wakeup
  /-- The waits that are not over. -/
  waits : List Wait
  /-- The number of the next wait. -/
  nextWait : Nat
  /-- The waits whose operation waits for an item in the queue, in order. -/
  takers : List (Party × Nat)
  /-- The waits whose operation waits for an acknowledgement. -/
  joiners : List (Party × Nat)
  /-- The waits that look for the end of the stream, in order. -/
  watchers : List (Party × Nat)
  /-- The calls that wait for the producer to end. -/
  closers : List Nat
  /-- The calls that have not returned, in order. -/
  calls : List (Call α)
  /-- What calls have returned, in order. -/
  returned : List (Nat × CallResult α)
  /-- Whether the producer is to be stopped when it goes on. -/
  killed : Bool
  /-- The page whose request is held back. -/
  heldPage : Option Int
  deriving DecidableEq, Repr

/-- The listing that a session's producer walks, and its first call. -/
structure Walk (α : Type) where
  /-- The listing. -/
  listing : Pageable α
  /-- The first call. -/
  first : PageCall α

namespace Session

variable {α : Type}

/-- A session with a stream before anything has happened. -/
def start (stream : Stream α) (heldPage : Option Int) : Session α where
  stream
  ready := match stream.producer with
    | .absent => []
    | _ => [.party .producer]
  waits := []
  nextWait := 0
  takers := []
  joiners := []
  watchers := []
  closers := []
  calls := []
  returned := []
  killed := false
  heldPage

/-- Puts a wakeup at the end of the queue. -/
def schedule (t : Session α) (w : Wakeup) : Session α :=
  { t with ready := t.ready ++ [w] }

/-! ## Waits -/

/-- The wait with a number. -/
def wait? (t : Session α) (number : Nat) : Option Wait :=
  t.waits.find? fun w => w.number = number

/-- Makes the producer or a call wait. -/
def beginWait (t : Session α) (p : Party) : Session α :=
  { t with
    waits := t.waits ++ [{ party := p, number := t.nextWait, notified := false }]
    nextWait := t.nextWait + 1
    ready := t.ready ++ [.operation p t.nextWait false, .watch p t.nextWait] }

/-- Ends the wait of the producer or of a call. -/
def endWait (t : Session α) (p : Party) : Session α :=
  { t with waits := t.waits.filter fun w => w.party ≠ p }

/-- Makes a wait go on, unless it will in any case. -/
def notifyWait (t : Session α) (w : Wait) : Session α :=
  if w.notified then t
  else
    { t with
      waits := t.waits.map fun v => if v.number = w.number then { v with notified := true } else v
      ready := t.ready ++ [.party w.party] }

/-- Makes the producer or a call that waits go on. -/
def notifyParty (t : Session α) (p : Party) : Session α :=
  match t.waits.find? fun w => w.party = p with
  | some w => t.notifyWait w
  | none => t

/-- Wakes the first call that waits for an item in the queue. -/
def wakeTaker (t : Session α) : Session α :=
  match t.takers.dropWhile fun (_, number) => (t.wait? number).isNone with
  | [] => { t with takers := [] }
  | (p, number) :: rest => { t with takers := rest }.schedule (.operation p number true)

/-! ## Steps of the stream -/

/-- What becomes ready when the stream changes from `old` to its present state. -/
def afterStep (t : Session α) (old : Stream α) : Session α :=
  let new := t.stream
  let t := if old.queue.length < new.queue.length then t.wakeTaker else t
  let t :=
    if 0 < old.unacknowledged ∧ new.unacknowledged = 0 then
      { t with
        joiners := []
        ready := t.ready ++ t.joiners.map fun (p, number) => .operation p number true }
    else t
  let t :=
    if !old.done && new.done then
      { t with
        watchers := []
        ready := t.ready ++ t.watchers.map fun (p, number) => .watch p number }
    else t
  let t :=
    match old.producer, new.producer with
    | .ended, _ => t
    | _, .ended => { t with closers := [], ready := t.ready ++ t.closers.map .producerEnded }
    | _, _ => t
  match old.producer, new.producer with
  | .offering .., .offering .. | .handing .., .handing .. => t
  | _, .offering .. | _, .handing .. => t.beginWait .producer
  | _, _ => t

/-- Takes a step of the stream, if it can be taken, and gives what it returned. -/
def act? (walk : Walk α) (t : Session α) (action : Action) :
    Option (Session α × Option (Reply α)) :=
  (t.stream.step? walk.listing walk.first action).map fun (s, reply) =>
    ({ t with stream := s }.afterStep t.stream, reply)

/-- Takes a step of the stream, if it can be taken. -/
def act (walk : Walk α) (t : Session α) (action : Action) : Session α :=
  match t.act? walk action with
  | some (t, _) => t
  | none => t

/-! ## The producer -/

/-- Whether the request that the producer waits for is held back. -/
def isHeld (t : Session α) : Bool :=
  match t.stream.calls.getLast?.map PageCall.direct with
  | some (.get page _ _) => t.heldPage = some page
  | _ => false

/-- Lets the listing answer the producer, unless the request is held back. -/
def answerUnlessHeld (walk : Walk α) (t : Session α) : Session α :=
  match t.stream.producer with
  | .fetching => if t.isHeld then t else t.act walk .answer
  | _ => t

/-- Lets the producer go on. -/
def runProducer (walk : Walk α) (t : Session α) : Session α :=
  let t := t.endWait .producer
  if t.killed then t.act walk .kill
  else
    match t.stream.producer with
    | .waiting => (t.act walk .begin).answerUnlessHeld walk
    | .fetching => t.act walk .answer
    | _ => (t.act walk .proceed).answerUnlessHeld walk

/-- Stops the producer when it goes on, which it does at once. -/
def killProducer (t : Session α) : Session α :=
  match t.stream.producer with
  | .absent | .ended => t
  | .fetching =>
    let t := { t with killed := true }
    if t.ready.contains (.party .producer) then t else t.schedule (.party .producer)
  | _ => { t with killed := true }.notifyParty .producer

/-! ## Calls -/

/-- Replaces the call `call.id`. -/
def setCall (t : Session α) (call : Call α) : Session α :=
  { t with calls := t.calls.map fun c => if c.id = call.id then call else c }

/-- Ends a call with a result. -/
def finish (t : Session α) (call : Call α) (result : CallResult α) : Session α :=
  { t with
    calls := t.calls.filter fun c => c.id ≠ call.id
    returned := t.returned ++ [(call.id, result)] }

/-- Makes a call close the stream. -/
def leave (walk : Walk α) (t : Session α) (call : Call α) (result : CallResult α) : Session α :=
  match t.act? walk (.close call.id) with
  | some (t, some _) => t.finish call result
  | some (t, none) =>
    let t := t.setCall { call with state := .closing result }
    match t.stream.producer with
    | .ended => t.schedule (.producerEnded call.id)
    | _ => { t with closers := t.closers ++ [call.id] }
  | none => t

/-- Whether an iteration has all the items it is to have. -/
def reached (limit : Option Nat) (items : List α) : Bool :=
  match limit with
  | some n => n ≤ items.length
  | none => false

/-- Ends a call for which there is no further item. -/
def conclude (walk : Walk α) (t : Session α) (call : Call α) : Session α :=
  match call.program with
  | .next => t.finish call .finished
  | .consume .. => t.finish call (.items call.items true)
  | .visit _ => t.leave walk call (.items call.items false)
  | .close => t.leave walk call .closed

/-- Makes a call ask for an item. -/
def ask (walk : Walk α) (t : Session α) (call : Call α) : Session α :=
  match t.act? walk (.request call.id) with
  | some (t, some _) => t.conclude walk call
  | some (t, none) => (t.setCall { call with state := .waiting }).beginWait (.call call.id)
  | none => t

/-- Lets an iteration go on, or end if it has all its items. -/
def iterate (walk : Walk α) (t : Session α) (call : Call α) : Session α :=
  match call.program with
  | .next => t.ask walk call
  | .consume limit cancels =>
    if reached limit call.items then
      (if cancels then t.act walk .cancel else t).finish call (.items call.items false)
    else t.ask walk call
  | .visit limit =>
    if reached limit call.items then t.leave walk call (.items call.items false)
    else t.ask walk call
  | .close => t.leave walk call .closed

/-- Ends a call that is interrupted while it waits for an item. -/
def breakOff (walk : Walk α) (t : Session α) (call : Call α) : Session α :=
  let call := { call with interrupted := false }
  match call.program with
  | .consume .. => t.finish call (.interrupted (some call.items))
  | .visit _ => t.leave walk call (.interrupted (some call.items))
  | .next | .close => t.finish call (.interrupted none)

/-- Gives a call what its wait for an item returned. -/
def receive (walk : Walk α) (t : Session α) (call : Call α) : Reply α → Session α
  | .item a =>
    match call.program with
    | .next => t.finish call (.item a)
    | _ => t.iterate walk { call with items := call.items ++ [a] }
  | .finished => t.conclude walk call
  | .interrupted => t.breakOff walk call
  | .closed => t.finish call .closed

/-- What a closing call returns if it is interrupted. -/
def interruptedResult (call : Call α) : CallResult α :=
  match call.program with
  | .consume .. | .visit _ => .interrupted (some call.items)
  | .next | .close => .interrupted none

/-- Lets a call go on. -/
def runCall (walk : Walk α) (t : Session α) (id : Nat) : Session α :=
  match t.calls.find? fun c => c.id = id with
  | none => t
  | some call =>
    match call.state with
    | .starting => t.iterate walk call
    | .waiting =>
      let t := t.endWait (.call id)
      match t.act? walk (if call.interrupted then .interrupt id else .return id) with
      | some (t, some reply) => t.receive walk call reply
      | _ => t
    | .closing result =>
      match t.act? walk (.settle id) with
      | some (t, _) =>
        t.finish call (if call.interrupted then interruptedResult call else result)
      | none => t

/-- Interrupts a call. One that waits for the producer to end stops the producer. -/
def interruptCall (t : Session α) (id : Nat) : Session α :=
  match t.calls.find? fun c => c.id = id with
  | none => t
  | some call =>
    let t := t.setCall { call with interrupted := true }
    match call.state with
    | .starting => t
    | .waiting => t.notifyParty (.call id)
    | .closing _ => t.killProducer

/-! ## Turns -/

/-- Runs the operation of a wait that is not over. -/
def runOperation (walk : Walk α) (t : Session α) (p : Party) (number : Nat) (woken : Bool) :
    Session α :=
  match p with
  | .call id =>
    match t.act? walk (.take id) with
    | some (t, _) => t.schedule (.notify p number)
    | none => { t with takers := t.takers ++ [(p, number)] }
  | .producer =>
    match t.stream.producer with
    | .offering .. =>
      match t.act? walk .put with
      | some (t, _) => t.schedule (.notify p number)
      | none => t
    | _ =>
      if woken ∨ t.stream.unacknowledged = 0 then t.schedule (.notify p number)
      else { t with joiners := t.joiners ++ [(p, number)] }

/-- Runs one wakeup. -/
def run (walk : Walk α) (t : Session α) : Wakeup → Session α
  | .party .producer => t.runProducer walk
  | .party (.call id) => t.runCall walk id
  | .operation p number woken =>
    match t.wait? number with
    | some _ => t.runOperation walk p number woken
    | none =>
      if woken ∧ p ≠ .producer ∧ !t.stream.queue.isEmpty then t.wakeTaker else t
  | .watch p number =>
    match t.wait? number with
    | none => t
    | some _ =>
      if t.stream.done then t.schedule (.notify p number)
      else { t with watchers := t.watchers ++ [(p, number)] }
  | .notify _ number =>
    match t.wait? number with
    | some w => t.notifyWait w
    | none => t
  | .producerEnded id => t.schedule (.party (.call id))

/-- Runs all that is ready now. -/
def turn (walk : Walk α) (t : Session α) : Session α :=
  t.ready.foldl (run walk) { t with ready := [] }

/-- Takes `n` turns. -/
def turns (walk : Walk α) : Nat → Session α → Session α
  | 0, t => t
  | n + 1, t => turns walk n (t.turn walk)

/-! ## What a user does -/

/-- Starts a call. -/
def call (t : Session α) (id : Nat) (program : Program) : Session α :=
  { t with
    calls := t.calls ++ [{ id, program, items := [], state := .starting, interrupted := false }]
    ready := t.ready ++ [.party (.call id)] }

/-- Cancels the stream. -/
def cancel (walk : Walk α) (t : Session α) : Session α :=
  t.act walk .cancel

/-- Lets the request that is held back go. -/
def release (t : Session α) : Session α :=
  let held := t.isHeld
  let t := { t with heldPage := none }
  match t.stream.producer with
  | .fetching => if held then t.schedule (.party .producer) else t
  | _ => t

/-- Interrupts the call at a place among those that have not returned. -/
def interrupt (t : Session α) (index : Nat) : Session α :=
  match t.calls[index]? with
  | some call => t.interruptCall call.id
  | none => t

end Session

end ApiClient
