import Inspector.Dialogue
import Inspector.Session

/-!
Worlds: a session together with the use that has been made of its debuggee. A world hosts
evaluations in one of several ways, which differ in who takes the live calls.
-/

namespace Inspector

structure World where
  session : Session
  trace : Debuggee.Trace := {}
  control : Option Nat := none
  deriving DecidableEq

inductive Service where
  /-- The waiter itself, by serving one call before it waits. -/
  | inline (source : Source)
  /-- Somebody who takes the call and never comes back. -/
  | stuck
  /-- The control thread, if there is one. -/
  | bare
  deriving DecidableEq, Repr

namespace World

variable (d : Debuggee)

def new (thread : Thread) (config : Config) : World :=
  { session := .new thread config }

def step (f : Session → α × Session) (w : World) : α × World :=
  let (a, session) := f w.session
  (a, { w with session })

/--
Take a call, run it on the active thread, and publish what came of it. The result says whether
there was a call.
-/
def serveOne (source : Source) (w : World) : Except EvalError Bool × World :=
  match w.step Session.takeRequest with
  | (none, w) => (.ok false, w)
  | (some (handle, call), w) =>
    match w.session.activeThread with
    | none =>
      let (r, w) := w.step (Session.abort handle .noActiveThread)
      (r.map fun _ => true, w)
    | some thread =>
      let (reply, trace) := d.execute thread call w.trace
      let (r, w) := { w with trace }.step (Session.publish handle (reply.delivery source))
      (r.map fun _ => true, w)

def serveControl (w : World) : World :=
  match w.control with
  | none => w
  | some served =>
    match w.serveOne d .attached with
    | (.ok true, w) => { w with control := some (served + 1) }
    | (_, w) => w

def beforeWait (service : Service) (w : World) : World :=
  match service with
  | .inline source => (w.serveOne d source).2
  | .stuck => (w.step Session.takeRequest).2
  | .bare => w.serveControl d

def wait (service : Service) (handle : Handle) (w : World) :
    Option (Except EvalError Outcome × World) :=
  let w := w.beforeWait d service
  match w.session.wait handle with
  | some (r, session) => some (r, { w with session })
  | none => none

def host (service : Service) : Host World
  | .permitted, w => some (w.session.propertyEvaluation, w)
  | .request call, w => some (w.step (Session.request call))
  | .wait handle, w => w.wait d service handle
  | .readString source a, w =>
    let (r, trace) := d.read source a w.trace
    some (r, { w with trace })

end World

end Inspector
