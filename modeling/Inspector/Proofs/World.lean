import Inspector.Proofs.Computation.InTurn
import Inspector.Proofs.Session.Step
import Inspector.World

/-!
Evaluations that serve their own calls. A request is granted or refused at once. One that is
granted is served before anybody waits for it, so an orderly dialogue gets all its answers and
finds the session, at each of its requests, as the dialogue found it when it began.
-/

namespace Inspector

def Debuggee.serve (d : Debuggee) (source : Source) (thread : Option Thread) (call : LiveCall)
    (t : Trace) : Delivery × Trace :=
  match thread with
  | none => (.fault .noActiveThread, t)
  | some thread =>
    let (reply, t) := d.execute thread call t
    (reply.delivery source, t)

namespace Session

structure Accepts (s : Session) : Prop where
  idle : s.slot = .idle
  isOpen : s.closed = false
  enabled : s.propertyEvaluation = true

variable {s : Session}

theorem request_accepted (haccepts : s.Accepts) (call : LiveCall)
    : s.request call =
        (.ok ⟨s.nextHandle⟩,
          { s with
            slot := .awaiting ⟨s.nextHandle⟩ (some call) false
            nextHandle := s.nextHandle + 1 }) := by
  simp [request, haccepts.idle, haccepts.isOpen, haccepts.enabled]

theorem request_refused (hrefuses : ¬s.Accepts) (call : LiveCall)
    : ∃ err, s.request call = (.error err, s) ∧ (s.slot = .idle → err.isOutOfTurn = false) := by
  unfold request
  split
  · exact ⟨_, rfl, fun _ => rfl⟩
  · next hopen =>
    split
    · exact ⟨_, rfl, fun _ => rfl⟩
    · next henabled =>
      split
      · next hbusy => exact ⟨_, rfl, fun hidle => absurd hidle hbusy⟩
      · next hidle =>
        exfalso
        apply hrefuses
        exact ⟨by simpa using hidle, by simpa using hopen, by simpa using henabled⟩

end Session

namespace World

section

variable (d : Debuggee) (source : Source) {w : World}

theorem host_permitted_inv {service : Service} {permitted : Bool} {w' : World}
    (hpermitted : host d service .permitted w = some (permitted, w'))
    : w.session.propertyEvaluation = permitted ∧ w' = w := by
  simp only [host, Option.some.injEq, Prod.mk.injEq] at hpermitted
  exact ⟨hpermitted.1, hpermitted.2.symm⟩

theorem serveOne_pending {h : Handle} {call : LiveCall}
    (hslot : w.session.slot = .awaiting h (some call) false) (hopen : w.session.closed = false)
    : let r := d.serve source w.session.activeThread call w.trace
      w.serveOne d source =
        (.ok true, { w with session := { w.session with slot := .finished h r.1 }, trace := r.2 })
        := by
  cases hthread : w.session.activeThread with
  | none =>
    simp [serveOne, step, Session.takeRequest, Session.takePending, hslot, hopen, hthread,
      Session.abort, Session.publish, Except.map, Debuggee.serve]
  | some thread =>
    simp [serveOne, step, Session.takeRequest, Session.takePending, hslot, hopen, hthread,
      Session.publish, Except.map, Debuggee.serve]

theorem host_wait_pending {h : Handle} {call : LiveCall}
    (hslot : w.session.slot = .awaiting h (some call) false) (hopen : w.session.closed = false)
    : let r := d.serve source w.session.activeThread call w.trace
      host d (.inline source) (.wait h) w =
        some (r.1.result, { w with session := { w.session with slot := .idle }, trace := r.2 })
        := by
  intro r
  simp only [host, wait, beforeWait, serveOne_pending d source hslot hopen, Session.wait]
  rw [Session.poll_finished rfl]

def afterCall (call : LiveCall) (w : World) : World :=
  { w with
    session := { w.session with nextHandle := w.session.nextHandle + 1 }
    trace := (d.serve source w.session.activeThread call w.trace).2 }

theorem host_request_accepted (haccepts : w.session.Accepts) (call : LiveCall)
    : ∃ w₁, host d (.inline source) (.request call) w = some (.ok ⟨w.session.nextHandle⟩, w₁) ∧
        host d (.inline source) (.wait ⟨w.session.nextHandle⟩) w₁ =
          some ((d.serve source w.session.activeThread call w.trace).1.result,
            w.afterCall d source call) := by
  let w₁ : World := { w with
    session := { w.session with
      slot := .awaiting ⟨w.session.nextHandle⟩ (some call) false
      nextHandle := w.session.nextHandle + 1 } }
  have hwait := host_wait_pending d source (w := w₁) rfl haccepts.isOpen
  refine ⟨w₁, ?_, ?_⟩
  · simp only [host, step]
    rw [Session.request_accepted haccepts]
  · rw [hwait]
    simp only [afterCall]
    rw [← haccepts.idle]

theorem host_request_refused (hrefuses : ¬w.session.Accepts) (call : LiveCall)
    : ∃ err, host d (.inline source) (.request call) w = some (.error err, w) ∧
        (w.session.slot = .idle → err.isOutOfTurn = false) := by
  obtain ⟨err, hrequest, hturn⟩ := Session.request_refused hrefuses call
  refine ⟨err, ?_, hturn⟩
  simp only [host, step]
  rw [hrequest]

end

section

variable (d : Debuggee)

theorem executed_serveOne (source : Source) (w : World)
    : w.trace.executed <+: (w.serveOne d source).2.trace.executed := by
  unfold serveOne step
  dsimp only
  split
  next heq =>
    obtain ⟨_, rfl⟩ := Prod.mk.inj heq
    apply List.prefix_rfl
  next heq =>
    obtain ⟨_, rfl⟩ := Prod.mk.inj heq
    split
    · apply List.prefix_rfl
    · apply List.prefix_append

theorem executed_serveControl (w : World)
    : w.trace.executed <+: (w.serveControl d).trace.executed := by
  unfold serveControl
  split
  · apply List.prefix_rfl
  · have hserve := w.executed_serveOne d .attached
    split
    next heq =>
      rw [heq] at hserve
      apply hserve
    next heq =>
      rw [heq] at hserve
      apply hserve

theorem executed_beforeWait (service : Service) (w : World)
    : w.trace.executed <+: (w.beforeWait d service).trace.executed := by
  cases service with
  | inline source => apply executed_serveOne
  | stuck => apply List.prefix_rfl
  | bare => apply executed_serveControl

theorem executed_host {service : Service} {q : Question} {a : q.Answer} {w w' : World}
    (hhost : host d service q w = some (a, w')) : w.trace.executed <+: w'.trace.executed := by
  cases q with
  | permitted =>
    cases hhost
    apply List.prefix_rfl
  | request call =>
    cases hhost
    apply List.prefix_rfl
  | wait handle =>
    simp only [host, wait] at hhost
    split at hhost
    · cases hhost
      apply executed_beforeWait
    · contradiction
  | readString source address =>
    obtain ⟨_, rfl⟩ := Prod.mk.inj (Option.some.inj hhost)
    change _ <+: (d.read source address w.trace).2.executed
    simp only [Debuggee.executed_read, List.prefix_rfl]

theorem executed_run {α : Type} {service : Service} {x : Dialogue α} {j j' : Journal} {a : α}
    {w w' : World} (hrun : x.run (host d service) j w = some (a, j', w'))
    : w.trace.executed <+: w'.trace.executed := by
  induction x generalizing j w with
  | done b =>
    obtain ⟨_, _, rfl⟩ := Dialogue.run_done_inv hrun
    apply List.prefix_rfl
  | report message next ih => apply ih hrun
  | visit id next ih => apply ih hrun
  | ask q next ih =>
    obtain ⟨b, w₁, hq, hrun⟩ := Dialogue.run_ask_inv hrun
    apply (executed_host d hq).trans (ih b hrun)

end

structure Ran (thread : Thread) (w : World) (calls : List LiveCall) (w' : World) : Prop where
  session : w'.session = { w.session with nextHandle := w.session.nextHandle + calls.length }
  executed : w'.trace.executed = w.trace.executed ++ calls.map (Execution.mk thread)
  control : w'.control = w.control
  accepted : calls ≠ [] → w.session.Accepts

namespace Ran

variable {w w₁ w' : World} {th : Thread} {calls later : List LiveCall}

theorem none (hsession : w'.session = w.session) (hexecuted : w'.trace.executed = w.trace.executed)
    (hcontrol : w'.control = w.control) : Ran th w [] w' where
  session := hsession
  executed := by rw [hexecuted, List.map_nil, List.append_nil]
  control := hcontrol
  accepted := by simp

theorem activeThread (hran : Ran th w calls w')
    : w'.session.activeThread = w.session.activeThread := by
  rw [hran.session]

theorem slot (hran : Ran th w calls w') : w'.session.slot = w.session.slot := by
  rw [hran.session]

theorem accepts (hran : Ran th w calls w') : w'.session.Accepts ↔ w.session.Accepts := by
  rw [hran.session]
  exact ⟨fun h => ⟨h.idle, h.isOpen, h.enabled⟩, fun h => ⟨h.idle, h.isOpen, h.enabled⟩⟩

theorem trans (hfirst : Ran th w calls w₁) (hlater : Ran th w₁ later w')
    : Ran th w (calls ++ later) w' where
  session := by
    rw [hlater.session, hfirst.session, List.length_append, Nat.add_assoc]
  executed := by
    rw [hlater.executed, hfirst.executed, List.map_append, List.append_assoc]
  control := by rw [hlater.control, hfirst.control]
  accepted hsome := by
    by_cases hcalls : calls = []
    · rw [← hfirst.accepts]
      apply hlater.accepted
      rintro rfl
      exact hsome (by rw [hcalls, List.append_nil])
    · exact hfirst.accepted hcalls

theorem afterCall (d : Debuggee) (source : Source) (hthread : w.session.activeThread = some th)
    (haccepts : w.session.Accepts) (call : LiveCall)
    : Ran th w [call] (w.afterCall d source call) where
  session := rfl
  executed := by
    simp only [World.afterCall]
    rw [hthread]
    rfl
  control := rfl
  accepted _ := haccepts

end Ran

variable {α : Type} {x : Dialogue α} {w w' : World} {th : Thread}

open Dialogue (Orderly)

theorem run_of_orderly (hx : x.Orderly) (d : Debuggee) (source : Source) (j : Journal)
    (hthread : w.session.activeThread = some th)
    : ∃ a j' w' calls,
        x.run (host d (.inline source)) j w = some (a, j', w') ∧ Ran th w calls w' := by
  induction hx generalizing j w with
  | @done a => exact ⟨a, j, w, [], rfl, .none rfl rfl rfl⟩
  | report _ ih => exact ih _ hthread
  | visit _ ih => exact ih _ hthread
  | permitted _ ih => exact ih w.session.propertyEvaluation j hthread
  | @readString read a next _ ih =>
    have hread : Ran th w [] { w with trace := (d.read read a w.trace).2 } :=
      .none rfl (d.executed_read read a w.trace) rfl
    obtain ⟨a, j', w', calls, hrun, hran⟩ := ih _ j (hread.activeThread.trans hthread)
    exact ⟨a, j', w', calls, hrun, hread.trans hran⟩
  | @request call next told hrefused hgranted _ ihrefused ihtold =>
    unfold Dialogue.run
    by_cases haccepts : w.session.Accepts
    -- The wait follows at once, so the call that is served for it is the one just granted.
    · obtain ⟨w₁, hrequest, hwait⟩ := host_request_accepted d source haccepts call
      have hran := Ran.afterCall d source hthread haccepts call
      rw [hrequest]
      dsimp only
      rw [hgranted]
      unfold Dialogue.run
      rw [hwait]
      obtain ⟨a, j', w', calls, hrun, hlater⟩ := ihtold _ _ j (hran.activeThread.trans hthread)
      exact ⟨a, j', w', call :: calls, hrun, hran.trans hlater⟩
    · obtain ⟨err, hrequest, _⟩ := host_request_refused d source haccepts call
      rw [hrequest]
      exact ihrefused err j hthread

theorem ran_of_run (hx : x.Orderly) {d : Debuggee} {source : Source} {j j' : Journal} {a : α}
    (hthread : w.session.activeThread = some th)
    (hrun : x.run (host d (.inline source)) j w = some (a, j', w'))
    : ∃ calls, Ran th w calls w' := by
  obtain ⟨a', j₁, w₁, calls, hrun', hran⟩ := run_of_orderly hx d source j hthread
  rw [hrun'] at hrun
  cases hrun
  exact ⟨calls, hran⟩

end World

end Inspector
