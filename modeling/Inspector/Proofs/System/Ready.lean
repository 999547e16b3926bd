import Inspector.Proofs.Session.Ready
import Inspector.Proofs.System

/-!
Two channels in one session. The signal of the inspecting side and the evaluations do not take
notice of each other: either goes the same way if all steps of the other are left out.

Main statement: `rendezvous_independent` says so of whole runs, and which waits were told of a
signal.
-/

namespace Inspector

namespace System

open Session (Op Event Signalled)

variable {ι : Type}

def Action.isRendezvous : Action ι → Bool
  | .direct op => op.isRendezvous
  | _ => false

def withReady (ready : Bool) (sys : System ι) : System ι :=
  { sys with session := sys.session.withReady ready }

@[simp]
theorem session_withReady (ready : Bool) (sys : System ι)
    : (sys.withReady ready).session = sys.session.withReady ready := rfl

@[simp]
theorem trace_withReady (ready : Bool) (sys : System ι)
    : (sys.withReady ready).trace = sys.trace := rfl

@[simp]
theorem workers_withReady (ready : Bool) (sys : System ι)
    : (sys.withReady ready).workers = sys.workers := rfl

theorem withReady_self (sys : System ι) : sys.withReady sys.session.ready = sys := rfl

theorem withReady_withReady (a b : Bool) (sys : System ι)
    : (sys.withReady a).withReady b = sys.withReady b := rfl

theorem event_withReady {op : Op} (hop : op.isRendezvous = false) (ready : Bool) (s : Session)
    : (s.withReady ready).event op = s.event op := by
  unfold Session.event
  rw [Session.run_withReady hop]

theorem perform_withReady {op : Op} (hop : op.isRendezvous = false) (ready : Bool) (sys : System ι)
    : (sys.withReady ready).perform op = (sys.perform op).withReady ready := by
  unfold perform withReady
  rw [Session.run_withReady hop]

theorem perform_rendezvous {op : Op} (hop : op.isRendezvous = true)
    : ∃ ready, ∀ sys : System ι, sys.perform op = sys.withReady ready := by
  cases op with
  | signalReady => exact ⟨true, fun _ => rfl⟩
  | takeReady => exact ⟨false, fun _ => rfl⟩
  | _ => contradiction

variable [DecidableEq ι] {d : Debuggee} {a : Action ι}

theorem setWorker_withReady (i : ι) (worker : Worker) (ready : Bool) (sys : System ι)
    : (sys.withReady ready).setWorker i worker = (sys.setWorker i worker).withReady ready := rfl

theorem isRendezvous_lookOp (late : Bool) : (lookOp late).isRendezvous = false := by
  cases late <;> rfl

theorem step_withReady (ha : a.isRendezvous = false) (ready : Bool) (sys : System ι)
    : (sys.withReady ready).step d a = ((sys.step d a).1, (sys.step d a).2.withReady ready) := by
  cases a with
  | direct op =>
    simp only [step, session_withReady, event_withReady ha, perform_withReady ha]
  | take i late =>
    have hlook := isRendezvous_lookOp late
    cases hworker : sys.workers i with
    | free =>
      simp only [step, workers_withReady, hworker, session_withReady, event_withReady hlook,
        perform_withReady hlook, setWorker_withReady]
    | taken | started | ended => simp only [step, workers_withReady, hworker]
  | start i =>
    cases hworker : sys.workers i with
    | taken h call =>
      have hthread : (sys.withReady ready).session.activeThread = sys.session.activeThread := rfl
      simp only [step, workers_withReady, hworker, hthread]
      cases sys.session.activeThread <;> rfl
    | free | started | ended => simp only [step, workers_withReady, hworker]
  | execute i source =>
    cases hworker : sys.workers i with
    | started h call thread =>
      simp only [step, workers_withReady, hworker, trace_withReady]
      rfl
    | free | taken | ended => simp only [step, workers_withReady, hworker]
  | publish i =>
    cases hworker : sys.workers i with
    | ended h delivery =>
      have hop : (Op.publish h delivery).isRendezvous = false := rfl
      simp only [step, workers_withReady, hworker, session_withReady, event_withReady hop,
        perform_withReady hop, setWorker_withReady]
    | free | taken | started => simp only [step, workers_withReady, hworker]

theorem ready_step (ha : a.isRendezvous = false) (sys : System ι)
    : (sys.step d a).2.session.ready = sys.session.ready := by
  have hstep := step_withReady (d := d) ha sys.session.ready sys
  rw [withReady_self] at hstep
  rw [hstep]
  rfl

theorem log_step (ha : a.isRendezvous = false) (sys : System ι)
    : ∀ e ∈ (sys.step d a).1, e.op.isRendezvous = false := by
  intro e he
  cases a with
  | direct op =>
    obtain rfl := List.mem_singleton.mp he
    exact ha
  | take i late =>
    unfold step at he
    dsimp only at he
    split at he
    · obtain rfl := List.mem_singleton.mp he
      exact isRendezvous_lookOp late
    · contradiction
  | start i =>
    unfold step at he
    dsimp only at he
    split at he
    · split at he <;> contradiction
    · contradiction
  | execute i source =>
    unfold step at he
    dsimp only at he
    split at he <;> contradiction
  | publish i =>
    unfold step at he
    dsimp only at he
    split at he
    · obtain rfl := List.mem_singleton.mp he
      rfl
    · contradiction

theorem step_rendezvous (ha : a.isRendezvous = true)
    : ∃ (op : Op) (ready : Bool), op.isRendezvous = true ∧
        ∀ sys : System ι, sys.step d a = ([sys.session.event op], sys.withReady ready) := by
  cases a with
  | direct op =>
    obtain ⟨ready, hready⟩ := perform_rendezvous ha
    refine ⟨op, ready, ha, ?_⟩
    intro sys
    rw [step, hready]
  | _ => contradiction

theorem event_rendezvous {op : Op} (hop : op.isRendezvous = true) {s s' : Session}
    (hready : s.ready = s'.ready) : s.event op = s'.event op := by
  cases op with
  | signalReady => rfl
  | takeReady => exact congrArg (Session.Event.mk Op.takeReady) hready
  | _ => contradiction

theorem filter_log_step (ha : a.isRendezvous = false) (sys : System ι)
    : (sys.step d a).1.filter (!·.op.isRendezvous) = (sys.step d a).1 ∧
      (sys.step d a).1.filter (·.op.isRendezvous) = [] := by
  have hlog := log_step (d := d) ha sys
  constructor
  · apply List.filter_eq_self.mpr
    intro e he
    rw [hlog e he]
    rfl
  · apply List.filter_eq_nil_iff.mpr
    intro e he
    simp [hlog e he]

theorem run_calls (actions : List (Action ι)) (ready : Bool) (sys : System ι)
    : run d (actions.filter (!·.isRendezvous)) (sys.withReady ready)
      = ((run d actions sys).1.filter (!·.op.isRendezvous),
          (run d actions sys).2.withReady ready) := by
  induction actions generalizing sys with
  | nil => rfl
  | cons a actions ih =>
    cases ha : a.isRendezvous with
    | false =>
      have hstep := step_withReady (d := d) ha ready sys
      simp [run, ha, hstep, ih, filter_log_step ha]
    | true =>
      obtain ⟨op, later, hop, hstep⟩ := step_rendezvous (d := d) ha
      have hevent : (sys.session.event op).op.isRendezvous = true := hop
      have hih := ih (sys.withReady later)
      rw [withReady_withReady] at hih
      simp [run, ha, hstep, hih, hevent]

theorem run_signals (actions : List (Action ι)) (sys sys' : System ι)
    (hready : sys'.session.ready = sys.session.ready)
    : run d (actions.filter (·.isRendezvous)) sys'
      = ((run d actions sys).1.filter (·.op.isRendezvous),
          sys'.withReady (run d actions sys).2.session.ready) := by
  induction actions generalizing sys sys' with
  | nil =>
    rw [List.filter_nil, run, run, ← hready, withReady_self]
    rfl
  | cons a actions ih =>
    cases ha : a.isRendezvous with
    | false =>
      have hih := ih (sys.step d a).2 sys' (hready.trans (ready_step ha sys).symm)
      simp [run, ha, hih, filter_log_step ha]
    | true =>
      obtain ⟨op, later, hop, hstep⟩ := step_rendezvous (d := d) ha
      have hsame : (sys.session.event op).op.isRendezvous = true := hop
      have hevent := event_rendezvous hop hready
      have hih := ih (sys.withReady later) (sys'.withReady later) rfl
      rw [withReady_withReady] at hih
      simp [run, ha, hstep, hevent, hih, hsame]

/--
The signals are a channel of their own. A wait that has come to an end, by an answer or by its
timeout, was told of a signal just if one was given and not told to any wait before.
-/
theorem rendezvous_independent (d : Debuggee) (thread : Thread) (config : Config)
    (actions : List (Action ι))
    : let start : System ι := .new thread config
      let whole := run d actions start
      (∀ before answer after, whole.1 = before ++ ⟨.takeReady, answer⟩ :: after →
        (answer = true ↔ Signalled before)) ∧
      run d (actions.filter (!·.isRendezvous)) start
        = (whole.1.filter (!·.op.isRendezvous), whole.2.withReady false) ∧
      run d (actions.filter (·.isRendezvous)) start
        = (whole.1.filter (·.op.isRendezvous), start.withReady whole.2.session.ready) ∧
      (∀ s : Session, s.lookReady = if s.ready || s.closed then some s.takeReady else none) ∧
      whole.2.session.nextHandle ≤ 1 + actions.length := by
  intro start whole
  have hrun : Session.Run start.session whole.1 whole.2.session := run_session actions start
  refine ⟨?_, ?_, ?_, Session.lookReady_eq, nextHandle_run actions start⟩
  · intro before answer after hlog
    exact Session.answered_run hrun rfl hlog
  · exact run_calls actions false start
  · exact run_signals actions start start rfl

end System

end Inspector
