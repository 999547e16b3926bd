import Inspector.Config
import Inspector.LiveCall

/-!
Evaluation sessions. An inspecting side asks for live calls and waits for their outcomes, a
controlling side takes the calls, runs them and publishes what came of them. At most one live
evaluation is outstanding: the session has a single slot for it.

Every function here is one step that no other step of the session can interrupt. A blocking
operation is a step that may find nothing to do, and a second one for the end of the timeout.
-/

namespace Inspector

inductive Slot where
  | idle
  /--
  An evaluation was asked for. The call is there until the controlling side takes it. The
  evaluation is abandoned if its waiter gave up after that.
  -/
  | awaiting (handle : Handle) (call : Option LiveCall) (abandoned : Bool)
  | finished (handle : Handle) (delivery : Delivery)
  deriving DecidableEq

inductive Slot.State where
  | idle | awaitingEval | evalComplete | evalFaulted
  deriving DecidableEq, Repr

namespace Slot

def state : Slot → State
  | idle => .idle
  | awaiting .. => .awaitingEval
  | finished _ (.outcome (.returned _)) => .evalComplete
  | finished .. => .evalFaulted

end Slot

structure Session where
  slot : Slot := .idle
  nextHandle : Nat := 1
  ready : Bool := false
  propertyEvaluation : Bool
  activeThread : Option Thread
  closed : Bool := false
  timeout : Option UInt64
  deriving DecidableEq

namespace Session

def new (thread : Thread) (config : Config) : Session where
  propertyEvaluation := config.propertyEvaluation
  activeThread := some thread
  timeout := config.evalTimeout

def isWaiting (s : Session) : Bool :=
  s.slot.state == .awaitingEval

def setPropertyEvaluation (enabled : Bool) (s : Session) : Session :=
  { s with propertyEvaluation := enabled }

def setActiveThread (thread : Thread) (s : Session) : Session :=
  { s with activeThread := some thread }

def request (call : LiveCall) (s : Session) : Except EvalError Handle × Session :=
  if s.closed then
    (.error (.evalFault .sessionClosed), s)
  else if !s.propertyEvaluation then
    (.error (.notSupported .disabled), s)
  else if s.slot ≠ .idle then
    (.error .evalInProgress, s)
  else
    (.ok ⟨s.nextHandle⟩,
      { s with
        slot := .awaiting ⟨s.nextHandle⟩ (some call) false
        nextHandle := s.nextHandle + 1 })

def takeOutcome (s : Session) : Except EvalError Outcome × Session :=
  match s.slot with
  | .finished _ delivery => (delivery.result, { s with slot := .idle })
  | _ => (.error (.invalidOperation .noOutcome), s)

def poll (h : Handle) (s : Session) : Option (Except EvalError Outcome × Session) :=
  match s.slot with
  | .awaiting h' _ abandoned =>
    if h' ≠ h then some (.error (.invalidOperation (.notOutstanding h)), s)
    else if abandoned then some (.error (.evalFault (.timedOut h)), s)
    else none
  | .finished h' _ =>
    if h' ≠ h then some (.error (.invalidOperation (.notOutstanding h)), s)
    else some s.takeOutcome
  | .idle => some (.error (.invalidOperation (.notOutstanding h)), s)

/--
Give up waiting. A call that has not been taken is withdrawn; one that has been taken keeps the
session busy until its outcome arrives, which then goes to nobody.
-/
def expire (h : Handle) (s : Session) : Except EvalError Outcome × Session :=
  match s.slot with
  | .awaiting h' call _ =>
    if h' ≠ h then
      (.error (.invalidOperation (.notOutstanding h)), s)
    else
      let slot := if call.isSome then .idle else .awaiting h none true
      (.error (.evalFault (.timedOut h)), { s with slot })
  | _ => (s.poll h).getD (.error (.invalidOperation (.notOutstanding h)), s)

/-- Wait for an outcome while nobody else moves; `none` if that takes for ever. -/
def wait (h : Handle) (s : Session) : Option (Except EvalError Outcome × Session) :=
  match s.poll h with
  | some r => some r
  | none => if s.timeout.isSome then some (s.expire h) else none

def signalReady (s : Session) : Session :=
  { s with ready := true }

def takePending (s : Session) : Option (Handle × LiveCall) × Session :=
  match s.slot with
  | .awaiting h (some call) abandoned =>
    (some (h, call), { s with slot := .awaiting h none abandoned })
  | _ => (none, s)

/-- Look for a call to run. A waiter that gives up looks once more, by `takePending`. -/
def takeRequest (s : Session) : Option (Handle × LiveCall) × Session :=
  if s.closed then (none, s) else s.takePending

def publish (h : Handle) (delivery : Delivery) (s : Session) : Except EvalError Unit × Session :=
  match s.slot with
  | .awaiting h' _ abandoned =>
    if h' ≠ h then (.error (.invalidOperation (.notOutstanding h)), s)
    else if abandoned then (.ok (), { s with slot := .idle })
    else (.ok (), { s with slot := .finished h delivery })
  | _ => (.error (.invalidOperation (.notOutstanding h)), s)

def finish (h : Handle) (value : Value) (s : Session) : Except EvalError Unit × Session :=
  s.publish h (.outcome (.returned value))

def fault (h : Handle) (exception : Value) (s : Session) : Except EvalError Unit × Session :=
  s.publish h (.outcome (.threw exception))

def abort (h : Handle) (reason : Fault) (s : Session) : Except EvalError Unit × Session :=
  s.publish h (.fault reason)

def takeReady (s : Session) : Bool × Session :=
  (s.ready, { s with ready := false })

/--
Look for the signal; `none` if it may still come. On a closed session nobody goes on waiting for it.
A waiter that gives up looks once more, by `takeReady`.
-/
def lookReady (s : Session) : Option (Bool × Session) :=
  if s.ready then some (true, { s with ready := false })
  else if s.closed then some (false, s)
  else none

/-- Tear the session down. An evaluation that somebody still waits for faults. -/
def close (s : Session) : Session :=
  if s.closed then
    s
  else
    match s.slot with
    | .awaiting h _ abandoned =>
      let slot := if abandoned then .idle else .finished h (.fault .sessionClosed)
      { s with closed := true, slot }
    | _ => { s with closed := true }

end Session

end Inspector
