import QueryMan.Coro.Tasks

/-!
# Until disconnect

`_until_disconnect` of `delivery/app.py`: the query and the watcher of the connection run as two
tasks of their own, and the request waits for the first of them. The awaits of the request are
written out as `asyncio` has them: a future that is not done is yielded to the event loop, and the
turn that comes back may bring a `CancelledError`. A cancellation of the request goes to the task
that it waits for, unless that is done.
-/

namespace QueryMan.UntilDisconnect

open Coro

/-! ## The event loop -/

/-- The exceptions: what the query and `request.receive` raise themselves is an `other`. -/
inductive Raised where
  | cancelledError
  | queryTimeoutError
  | other (name : String)
  deriving DecidableEq, Repr

/-- The tasks that `_until_disconnect` creates. -/
inductive Child where
  | query
  | disconnected
  deriving DecidableEq, Repr

/-- A task: whether `cancel` was called while it ran, and how it ended. -/
structure Task (α : Type) where
  cancelRequested : Bool
  outcome : Option (Except Raised α)

namespace Task

variable {α : Type}

/-- `asyncio.create_task`. -/
def created : Task α := ⟨false, none⟩

/-- `task.done()`. -/
def done (task : Task α) : Bool :=
  task.outcome.isSome

/-- `task.cancel()`: the task is asked to end, and may do as it likes. -/
def cancel (task : Task α) : Task α :=
  if task.done then task else { task with cancelRequested := true }

/-- The task ended with an exception that is no `CancelledError`. -/
def failed (task : Task α) : Bool :=
  match task.outcome with
  | some (.error e) => e ≠ .cancelledError
  | _ => false

end Task

/-- The future that the request is suspended at: that of `asyncio.wait`, or a task. -/
inductive Waiter where
  | firstCompleted
  | task (child : Child)
  deriving DecidableEq, Repr

/-- The event loop, as far as one request sees it. -/
structure Loop (α : Type) where
  query : Task α
  disconnected : Task Unit
  waiter : Option Waiter
  /-- the next turn of the request brings a `CancelledError` -/
  cancelled : Bool
  /-- a `CancelledError` came out of `asyncio.wait` -/
  interrupted : Bool
  /-- the exception of the watcher was raised while the query ran -/
  abandoned : Bool

/-- No request: both tasks are done. -/
def Loop.idle (α : Type) : Loop α where
  query := ⟨false, some (.error .cancelledError)⟩
  disconnected := ⟨false, some (.error .cancelledError)⟩
  waiter := none
  cancelled := false
  interrupted := false
  abandoned := false

namespace Loop

variable {α : Type}

/-- `task.done()` of either task. -/
def done (s : Loop α) : Child → Bool
  | .query => s.query.done
  | .disconnected => s.disconnected.done

/-- What the request waits for has come. -/
def ready (s : Loop α) : Waiter → Bool
  | .firstCompleted => s.query.done || s.disconnected.done
  | .task child => s.done child

/-- `task.cancel()` of either task. -/
def cancel (s : Loop α) : Child → Loop α
  | .query => { s with query := s.query.cancel }
  | .disconnected => { s with disconnected := s.disconnected.cancel }

/-- The request itself is cancelled: the future it waits for takes the cancellation, and where that
is a task that still runs, the request goes on waiting. -/
def cancelRequest (s : Loop α) : Loop α :=
  match s.waiter with
  | some (.task child) => if s.done child then { s with cancelled := true } else s.cancel child
  | some .firstCompleted => { s with cancelled := true }
  | none => s

end Loop

/-! ## The program -/

/-- The operations of the request. -/
inductive Op where
  | createTask (child : Child)
  /-- the request yields a future -/
  | block (waiter : Waiter)
  /-- the turn that comes back -/
  | resume
  /-- `task.cancel()` -/
  | cancel (child : Child)
  /-- `task.done()` -/
  | done (child : Child)
  /-- `task.result()` -/
  | result (child : Child)
  deriving DecidableEq, Repr

/-- What an operation answers with. -/
def Ret (α : Type) : Op → Type
  | .done _ => Bool
  | .result .query => α
  | _ => Unit

section
variable {α : Type}

/-- The programs of the request. -/
abbrev Handler (α β : Type) : Type := Prog (Ret α) Raised β

/-- Call an operation. -/
def perform (o : Op) : Handler α (Ret α o) :=
  Prog.perform o

/-- Yield a future, and wait for the turn. -/
def suspend (waiter : Waiter) : Handler α Unit := do
  perform (.block waiter)
  perform .resume

/-- `Future.__await__` before its result: a task that is not done is yielded. -/
def waitDone (child : Child) : Handler α Unit := do
  let finished : Bool ← perform (.done child)
  if finished then pure () else suspend (.task child)

/-- `await task`. -/
def awaitTask (child : Child) : Handler α (Ret α (.result child)) := do
  waitDone child
  perform (.result child)

/-- `with suppress(asyncio.CancelledError): await task`. -/
def awaitQuietly (child : Child) : Handler α Unit :=
  Prog.tryCatch (fun e => if e = .cancelledError then pure () else throw e) do
    let _ ← awaitTask child
    pure ()

/-- `asyncio.wait` for the first of the tasks, and whether the query is among those that are done.
-/
def waitFirstCompleted : Handler α Bool := do
  suspend .firstCompleted
  perform (.done .query)

/-- The block inside `try`. -/
def reactFirst : Handler α α := do
  let done ← waitFirstCompleted
  if done then perform (.result .query)
  else do
    perform (.cancel .query)
    awaitQuietly .query
    throw .queryTimeoutError

/-- The block inside `finally`. -/
def settle : Handler α Unit := do
  perform (.cancel .disconnected)
  awaitQuietly .disconnected
  let done : Bool ← perform (.done .query)
  if done then pure ()
  else do
    perform (.cancel .query)
    awaitQuietly .query

/-- `_until_disconnect`. -/
def untilDisconnect : Handler α α := do
  perform (.createTask .query)
  perform (.createTask .disconnected)
  Prog.tryFinally reactFirst settle

/-! ## Steps -/

/-- What an operation answers and does. -/
inductive Step : Loop α → (o : Op) → Except Raised (Ret α o) → Loop α → Prop where
  | createQuery (s : Loop α) :
      Step s (.createTask .query) (.ok ())
        { s with query := .created, interrupted := false, abandoned := false }
  | createDisconnected (s : Loop α) :
      Step s (.createTask .disconnected) (.ok ()) { s with disconnected := .created }
  | block (s : Loop α) (waiter : Waiter) :
      Step s (.block waiter) (.ok ()) { s with waiter := some waiter, cancelled := false }
  | resume {s : Loop α} {waiter : Waiter} (hwaiter : s.waiter = some waiter)
      (hready : s.ready waiter = true) (hcalm : s.cancelled = false) :
      Step s .resume (.ok ()) { s with waiter := none }
  | interrupt {s : Loop α} (hcancelled : s.cancelled = true) :
      Step s .resume (.error .cancelledError)
        { s with
          waiter := none
          interrupted := s.interrupted || decide (s.waiter = some .firstCompleted) }
  | cancel (s : Loop α) (child : Child) : Step s (.cancel child) (.ok ()) (s.cancel child)
  | done (s : Loop α) (child : Child) : Step s (.done child) (.ok (s.done child)) s
  | resultQuery {s : Loop α} {r : Except Raised α} (h : s.query.outcome = some r) :
      Step s (.result .query) r s
  | resultDisconnected {s : Loop α} {r : Except Raised Unit} (h : s.disconnected.outcome = some r) :
      Step s (.result .disconnected) r
        { s with abandoned := s.abandoned || (s.disconnected.failed && !s.query.done) }

/-- What happens while the request waits: the tasks end, in any way, and the request is cancelled.
-/
inductive Env : Loop α → Loop α → Prop where
  | queryEnds {s : Loop α} (hrunning : s.query.done = false) (r : Except Raised α) :
      Env s { s with query := { s.query with outcome := some r } }
  | watcherEnds {s : Loop α} (hrunning : s.disconnected.done = false) (r : Except Raised Unit) :
      Env s { s with disconnected := { s.disconnected with outcome := some r } }
  | cancelled (s : Loop α) : Env s s.cancelRequest

/-- The request among the tasks of the event loop. -/
def system (α : Type) : System Unit (Loop α) (fun _ => Ret α) Raised fun _ => α where
  starts := fun _ p => p = untilDisconnect
  suspends := fun _ o => decide (o = .resume)
  step := fun _ => Step
  env := Env

end

end QueryMan.UntilDisconnect
