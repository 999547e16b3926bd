import Inspector.Proofs.Session.Run
import Inspector.World
import Mathlib.Logic.Function.Basic

/-!
Systems: a session shared by any number of parties. Control threads serve calls in four steps each,
between which everybody else may move: take a call, look which thread it has to run on, run it,
publish what came of it. All other parties are free to take any step at any time.

Main statement: a control thread that nobody interrupts does what `World.serveOne` does.
-/

namespace Inspector

inductive Worker where
  | free
  | taken (h : Handle) (call : LiveCall)
  | started (h : Handle) (call : LiveCall) (thread : Thread)
  | ended (h : Handle) (delivery : Delivery)

namespace Worker

/-- The evaluation that is running: its call has been taken and nothing has been published. -/
def running? : Worker → Option Handle
  | free => none
  | taken h _ | started h .. | ended h _ => some h

def ofEffect : Option Session.Effect → Worker
  | some (.handedOut h call) => taken h call
  | _ => free

end Worker

structure System (ι : Type) where
  session : Session
  trace : Debuggee.Trace := {}
  workers : ι → Worker := fun _ => .free

namespace System

open Session (Op Event)

/-- A control thread whose time is up looks for a call once more, and then `late` is set. -/
inductive Action (ι : Type) where
  | direct (op : Op)
  | take (i : ι) (late : Bool)
  | start (i : ι)
  | execute (i : ι) (source : Source)
  | publish (i : ι)

variable {ι : Type}

def new (thread : Thread) (config : Config) : System ι :=
  { session := .new thread config }

def perform (op : Op) (sys : System ι) : System ι :=
  { sys with session := (op.run sys.session).2 }

@[simp]
theorem session_perform (op : Op) (sys : System ι)
    : (sys.perform op).session = (op.run sys.session).2 := rfl

@[simp]
theorem trace_perform (op : Op) (sys : System ι) : (sys.perform op).trace = sys.trace := rfl

@[simp]
theorem workers_perform (op : Op) (sys : System ι) : (sys.perform op).workers = sys.workers := rfl

variable [DecidableEq ι]

def setWorker (i : ι) (w : Worker) (sys : System ι) : System ι :=
  { sys with workers := Function.update sys.workers i w }

@[simp]
theorem session_setWorker (i : ι) (w : Worker) (sys : System ι)
    : (sys.setWorker i w).session = sys.session := rfl

@[simp]
theorem trace_setWorker (i : ι) (w : Worker) (sys : System ι)
    : (sys.setWorker i w).trace = sys.trace := rfl

@[simp]
theorem workers_setWorker (i : ι) (w : Worker) (sys : System ι)
    : (sys.setWorker i w).workers = Function.update sys.workers i w := rfl

variable (d : Debuggee)

def lookOp (late : Bool) : Op := if late then .takePending else .takeRequest

/-- A control thread that is not where the action needs it stays where it is. -/
def step (sys : System ι) : Action ι → List Event × System ι
  | .direct op => ([sys.session.event op], sys.perform op)
  | .take i late =>
    match sys.workers i with
    | .free =>
      let e := sys.session.event (lookOp late)
      ([e], (sys.perform (lookOp late)).setWorker i (.ofEffect e.effect?))
    | _ => ([], sys)
  | .start i =>
    match sys.workers i with
    | .taken h call =>
      match sys.session.activeThread with
      | some thread => ([], sys.setWorker i (.started h call thread))
      | none => ([], sys.setWorker i (.ended h (.fault .noActiveThread)))
    | _ => ([], sys)
  | .execute i source =>
    match sys.workers i with
    | .started h call thread =>
      let (reply, trace) := d.execute thread call sys.trace
      ([], { sys with trace }.setWorker i (.ended h (reply.delivery source)))
    | _ => ([], sys)
  | .publish i =>
    match sys.workers i with
    | .ended h delivery =>
      let op := Op.publish h delivery
      ([sys.session.event op], (sys.perform op).setWorker i .free)
    | _ => ([], sys)

def run : List (Action ι) → System ι → List Event × System ι
  | [], sys => ([], sys)
  | a :: as, sys =>
    let (log, sys) := sys.step d a
    let (later, sys) := run as sys
    (log ++ later, sys)

variable {d}

theorem step_session (a : Action ι) (sys : System ι)
    : Session.Run sys.session (sys.step d a).1 (sys.step d a).2.session := by
  cases a with
  | direct op => exact .single op sys.session
  | take i late =>
    unfold step
    dsimp only
    split
    · exact .single (lookOp late) sys.session
    · exact .start
  | start i =>
    unfold step
    dsimp only
    split
    · split
      · exact .start
      · exact .start
    · exact .start
  | execute i source =>
    unfold step
    dsimp only
    split
    · exact .start
    · exact .start
  | publish i =>
    unfold step
    dsimp only
    split
    · next h delivery _ => exact .single (.publish h delivery) sys.session
    · exact .start

theorem run_session (actions : List (Action ι)) (sys : System ι)
    : Session.Run sys.session (run d actions sys).1 (run d actions sys).2.session := by
  induction actions generalizing sys with
  | nil => exact .start
  | cons a as ih => exact (step_session a sys).append (ih (sys.step d a).2)

theorem length_step (a : Action ι) (sys : System ι) : (sys.step d a).1.length ≤ 1 := by
  cases a with
  | direct op => exact Nat.le_refl 1
  | take i late =>
    unfold step
    dsimp only
    split <;> simp
  | start i =>
    unfold step
    dsimp only
    split
    · split <;> simp
    · simp
  | execute i source =>
    unfold step
    dsimp only
    split <;> simp
  | publish i =>
    unfold step
    dsimp only
    split <;> simp

theorem nextHandle_step (a : Action ι) (sys : System ι)
    : (sys.step d a).2.session.nextHandle ≤ sys.session.nextHandle + 1 := by
  have hrun := Session.nextHandle_run (step_session (d := d) a sys)
  have hlength := length_step (d := d) a sys
  omega

/-- A counter of 64 bits is as good up to `2 ^ 64 - 2` actions. -/
theorem nextHandle_run (actions : List (Action ι)) (sys : System ι)
    : (run d actions sys).2.session.nextHandle ≤ sys.session.nextHandle + actions.length := by
  induction actions generalizing sys with
  | nil => exact Nat.le_refl _
  | cons a as ih =>
    have hstep := nextHandle_step (d := d) a sys
    have hrest := ih (sys.step d a).2
    simp only [run, List.length_cons]
    omega

theorem serveOne_eq_run (source : Source) (i : ι) (sys : System ι) (hfree : sys.workers i = .free)
    (served : Option Nat)
    : let w := (World.serveOne d source ⟨sys.session, sys.trace, served⟩).2
      (run d [.take i false, .start i, .execute i source, .publish i] sys).2
        = ⟨w.session, w.trace, sys.workers⟩ := by
  have hstay : Function.update sys.workers i .free = sys.workers := by
    rw [← hfree]
    apply Function.update_eq_self
  have hevent : sys.session.event .takeRequest = ⟨.takeRequest, sys.session.takeRequest.1⟩ := rfl
  have hperform
      : sys.perform .takeRequest = { sys with session := sys.session.takeRequest.2 } := rfl
  unfold World.serveOne
  rcases htake : sys.session.takeRequest with ⟨_ | ⟨h, call⟩, session⟩
  · rw [htake] at hevent hperform
    simp [run, step, hfree, lookOp, hevent, hperform, htake, World.step, Event.effect?,
      Worker.ofEffect, setWorker, hstay]
  · rw [htake] at hevent hperform
    cases hthread : session.activeThread with
    | none =>
      simp [run, step, hfree, lookOp, hevent, htake, hthread, World.step, Event.effect?,
        Worker.ofEffect, setWorker, hstay, perform, Op.run, Session.abort]
    | some thread =>
      simp [run, step, hfree, lookOp, hevent, htake, hthread, World.step, Event.effect?,
        Worker.ofEffect, setWorker, hstay, perform, Op.run]

end System

end Inspector
