import Inspector.Proofs.Session.Holding
import Inspector.Proofs.System.Deeds

/-!
What control threads are accountable for. The debuggee runs the calls that were handed out, each of
them once, and no others; and whoever has a control thread serve one call is told the truth about
it, no matter what all the other parties do in between.

Main statement: whatever happens to a new session, a run ends `Accounted`.
-/

namespace Inspector

def Reply.told (source : Source) : Reply → Except EvalError Outcome
  | returned v => .ok (.returned (v.wrap source))
  | threw e => .ok (.threw (e.wrap source))
  | failed reason => .error (.evalFault (.stated reason))

theorem Reply.result_delivery (source : Source) (reply : Reply)
    : (reply.delivery source).result = reply.told source := by
  cases reply <;> rfl

def Worker.isUnderway : Worker → Bool
  | taken .. | started .. => true
  | free | ended .. => false

namespace Session

def Effect.handOut? : Effect → Option (Handle × LiveCall)
  | handedOut h call => some (h, call)
  | _ => none

def handouts (log : List Event) : List (Handle × LiveCall) := effects Effect.handOut? log

theorem filter_handouts (log : List Event) (h : Handle)
    : (handouts log).filter (·.1 = h) = (handedOut log h).map (h, ·) := by
  unfold handouts handedOut effects
  rw [List.filter_filterMap, List.map_filterMap]
  congr 1
  funext e
  cases e.effect? with
  | none => rfl
  | some effect =>
    cases effect with
    | handedOut h' call =>
      by_cases hh : h' = h <;> simp [Effect.handOut?, Effect.handedOut?, hh, Option.filter]
    | _ => rfl

end Session

namespace System

open Session (Event Op ToldFirst handouts)

variable {ι : Type} {log : List Event} {past : List (Deed ι)} {h : Handle}

theorem filter_ran (past : List (Deed ι)) (h : Handle)
    : (past.filterMap Deed.ran?).filter (·.1 = h) = (deedsOf past h).filterMap Deed.ran? := by
  unfold deedsOf
  rw [List.filter_filterMap, List.filterMap_filter]
  congr 1
  funext x
  cases x with
  | ran i h' e reply source =>
    by_cases hh : h' = h <;> simp [Deed.ran?, Deed.handle?, hh, Option.filter]
  | _ => simp [Deed.ran?]

theorem Traced.ran {workers : ι → Worker} (htraced : Traced log past workers h)
    (hdone : ∀ i, (workers i).isUnderway = false)
    : (deedsOf past h).filterMap Deed.ran? = (Session.handedOut log h).map (h, ·) := by
  cases htraced with
  | untaken hout hdeeds hnone =>
    rw [hout, hdeeds]
    rfl
  | @held i call hout honly hstage =>
    have hdone := hdone i
    generalize workers i = w at hstage hdone
    generalize deedsOf past h = ds at hstage
    rw [hout]
    cases hstage with
    | taken | started => contradiction
    | ended => rfl
  | served thread reply source hout hdeeds hnone =>
    rw [hout, hdeeds]
    rfl

theorem ran_perm_handouts {workers : ι → Worker} (htraced : ∀ h, Traced log past workers h)
    (hdone : ∀ i, (workers i).isUnderway = false)
    : (past.filterMap Deed.ran?).Perm (handouts log) := by
  rw [List.perm_iff_count]
  intro p
  -- Evaluation by evaluation, the two lists are even equal.
  have hsame : (past.filterMap Deed.ran?).filter (·.1 = p.1) =
      (handouts log).filter (·.1 = p.1) := by
    rw [filter_ran, (htraced p.1).ran hdone, Session.filter_handouts]
  calc
    (past.filterMap Deed.ran?).count p
      = ((past.filterMap Deed.ran?).filter (·.1 = p.1)).count p := by
        rw [List.count_filter (by simp)]
    _ = ((handouts log).filter (·.1 = p.1)).count p := by rw [hsame]
    _ = (handouts log).count p := List.count_filter (by simp)

theorem map_call_executions (past : List (Deed ι))
    : (past.filterMap Deed.execution?).map Execution.call =
        (past.filterMap Deed.ran?).map Prod.snd := by
  rw [List.map_filterMap, List.map_filterMap]
  congr 1
  funext x
  cases x <;> rfl

variable [DecidableEq ι]

/--
A control thread `i` comes back with `r` from a step with these events, which has led from `sys`
to `sys'`.
-/
structure Answered (d : Debuggee) (log : List Event) (past : List (Deed ι)) (sys : System ι)
    (events : List Event) (sys' : System ι) (i : ι) (r : Except EvalError Bool) : Prop where
  nothing : r = .ok false ↔ holding past i = none
  accepted : r = .ok true ↔ ∃ h, holding past i = some h ∧ Session.accepted events h ≠ []
  refused : ∀ err, r = .error err ↔
    ∃ h, holding past i = some h ∧ err = .invalidOperation (.notOutstanding h) ∧
      (sys.session.closed = true ∨ Session.accepted log h ≠ [])
  unchanged : ∀ err, r = .error err → sys'.session = sys.session
  dropped : ∀ h call, holding past i = some h → sys.session.slot = .awaiting h call true →
    r = .ok true ∧ sys'.session = { sys.session with slot := .idle }
  told : ∀ h call, holding past i = some h → sys.session.slot = .awaiting h call false →
    r = .ok true ∧ ∃ e reply source, .ran i h e reply source ∈ past ∧
      ∀ later, ToldFirst h (reply.told source) (run d later sys').1 (run d later sys').2.session

structure Accounted (d : Debuggee) (log : List Event) (past : List (Deed ι)) (sys : System ι) :
    Prop where
  executed : sys.trace.executed = past.filterMap Deed.execution?
  traced : ∀ h, Traced log past sys.workers h
  balanced : (∀ i, (sys.workers i).isUnderway = false) →
    (sys.trace.executed.map Execution.call).Perm ((handouts log).map Prod.snd)
  thread : ∃ thread, sys.session.activeThread = some thread
  started : ∀ a i h thread, sys.deed? d a = some (.started i h thread) →
    sys.session.activeThread = some thread
  ran : ∀ a i h e reply source, sys.deed? d a = some (.ran i h e reply source) →
    reply = d.run sys.trace.executed e
  answered : ∀ a i r, sys.deed? d a = some (.returned i r) →
    Answered d log past sys (sys.step d a).1 (sys.step d a).2 i r
  alone : ∀ i source served, sys.workers i = .free →
    (deeds d [.take i sys.session.takeRequest.1.isNone, .start i, .execute i source, .publish i]
        sys).getLast? =
      some (.returned i (World.serveOne d source ⟨sys.session, sys.trace, served⟩).1)

variable {d : Debuggee} {thread : Thread} {config : Config} {events : List Event}
  {sys sys' : System ι} {i : ι}

theorem Recorded.balanced (hrec : Recorded thread config log past sys)
    (hdone : ∀ i, (sys.workers i).isUnderway = false)
    : (sys.trace.executed.map Execution.call).Perm ((handouts log).map Prod.snd) := by
  rw [hrec.executed, map_call_executions]
  exact (ran_perm_handouts hrec.traced hdone).map Prod.snd

theorem Recorded.ran (hrec : Recorded thread config log past sys) {delivery : Delivery}
    (hended : sys.workers i = .ended h delivery)
    : Session.handedOut log h ≠ [] ∧
        ∃ e reply source, .ran i h e reply source ∈ past ∧ delivery = reply.delivery source := by
  have hrun : (sys.workers i).running? = some h := by rw [hended, Worker.running?]
  obtain ⟨call, hout, _, hstage⟩ := (hrec.traced h).of_running hrun
  generalize hds : deedsOf past h = ds at hstage
  rw [hended] at hstage
  cases hstage with
  | ended thread reply source =>
    refine ⟨by simp [hout], ⟨thread, call⟩, reply, source, ?_, rfl⟩
    have hmem : .ran i h ⟨thread, call⟩ reply source ∈ deedsOf past h := by simp [hds]
    exact (List.mem_filter.mp hmem).1

theorem answered_nothing (hrec : Recorded thread config log past sys)
    (hfree : sys.workers i = .free) : Answered d log past sys events sys' i (.ok false) := by
  have hnone : holding past i = none := by rw [hrec.holding, hfree, Worker.running?]
  constructor <;> simp [hnone]

theorem answered_refused {delivery : Delivery} (hholding : holding past i = some h)
    (hnot : ¬sys.session.Awaits h)
    (hgone : sys.session.closed = true ∨ Session.accepted log h ≠ [])
    : Answered d log past sys [sys.session.event (.publish h delivery)]
        ((sys.perform (.publish h delivery)).setWorker i .free) i
        ((sys.session.publish h delivery).1.map fun _ => true) := by
  have hpublish := Session.publish_refused hnot delivery
  have hevent : sys.session.event (.publish h delivery) =
      ⟨.publish h delivery, .error (.invalidOperation (.notOutstanding h))⟩ := by
    simp [Session.event, Op.run, hpublish]
  rw [hevent, hpublish]
  constructor
  · simp [Except.map, hholding]
  · simp [Except.map, Session.accepted, Session.effects, Event.effect?]
  · intro err
    simp only [Except.map, Except.error.injEq, hholding, Option.some.injEq]
    constructor
    · rintro rfl
      exact ⟨h, rfl, rfl, hgone⟩
    · rintro ⟨h', rfl, rfl, _⟩
      rfl
  · intro err _
    simp [Op.run, hpublish]
  · intro h' call hh hslot
    rw [hholding, Option.some.injEq] at hh
    subst hh
    exact absurd ⟨call, true, hslot⟩ hnot
  · intro h' call hh hslot
    rw [hholding, Option.some.injEq] at hh
    subst hh
    exact absurd ⟨call, false, hslot⟩ hnot

theorem answered_accepted {e : Execution} {reply : Reply} {source : Source}
    (hlog : Session.Chronicle (.new thread config) log sys.session)
    (hholding : holding past i = some h) (hran : .ran i h e reply source ∈ past)
    (hhere : sys.session.Awaits h) (hopen : sys.session.closed = false)
    (hacc : Session.accepted log h = [])
    : Answered d log past sys [sys.session.event (.publish h (reply.delivery source))]
        ((sys.perform (.publish h (reply.delivery source))).setWorker i .free) i
        ((sys.session.publish h (reply.delivery source)).1.map fun _ => true) := by
  obtain ⟨session, hpublish⟩ := Session.publish_awaited hhere (reply.delivery source)
  have hevent : sys.session.event (.publish h (reply.delivery source)) =
      ⟨.publish h (reply.delivery source), .ok ()⟩ := by
    simp [Session.event, Op.run, hpublish]
  have hsession : (sys.perform (.publish h (reply.delivery source))).session = session := by
    simp [Op.run, hpublish]
  rw [hevent, hpublish]
  constructor
  · simp [Except.map, hholding]
  · simp [Except.map, hholding, Session.accepted, Session.effects, Session.Effect.accepted?]
  · simp [Except.map, hholding, hopen, hacc]
  · simp [Except.map]
  · intro h' call hh hslot
    rw [hholding, Option.some.injEq] at hh
    subst hh
    refine ⟨rfl, ?_⟩
    rw [Session.publish_abandoned hslot, Prod.mk.injEq] at hpublish
    rw [session_setWorker, hsession, hpublish.2]
  · intro h' call hh hslot
    rw [hholding, Option.some.injEq] at hh
    subst hh
    refine ⟨rfl, e, reply, source, hran, ?_⟩
    intro later
    have hagrees := hlog.slot
    rw [hslot] at hagrees
    obtain ⟨call', hissued⟩ := hagrees.awaiting.1
    rw [Session.publish_running hslot, Prod.mk.injEq] at hpublish
    rw [← reply.result_delivery]
    apply Session.toldFirst_run (run_session later _)
    · rw [session_setWorker, hsession, ← hpublish.2]
      exact hlog.known hissued
    · rw [session_setWorker, hsession, ← hpublish.2]

theorem answered_published (hrec : Recorded thread config log past sys) {delivery : Delivery}
    (hended : sys.workers i = .ended h delivery)
    : Answered d log past sys [sys.session.event (.publish h delivery)]
        ((sys.perform (.publish h delivery)).setWorker i .free) i
        ((sys.session.publish h delivery).1.map fun _ => true) := by
  have hlog := Session.chronicle_run hrec.run rfl rfl
  have hquiet := Session.quiet_run hrec.run rfl
  obtain ⟨hout, e, reply, source, hran, rfl⟩ := hrec.ran hended
  have hholding : holding past i = some h := by rw [hrec.holding, hended, Worker.running?]
  -- The session is the judge of what the log says about `h`.
  have hawaits := Session.awaits_iff hlog hquiet hrec.run hout
  by_cases hhere : sys.session.Awaits h
  · obtain ⟨hopen, hacc⟩ := hawaits.mp hhere
    exact answered_accepted hlog hholding hran hhere hopen hacc
  · apply answered_refused hholding hhere
    by_cases hclosed : sys.session.closed = true
    · exact .inl hclosed
    · refine .inr fun hacc => hhere (hawaits.mpr ⟨?_, hacc⟩)
      simpa using hclosed

theorem activeThread_of_started {a : Action ι}
    (hdeed : sys.deed? d a = some (.started i h thread))
    : sys.session.activeThread = some thread := by
  obtain ⟨events, sys', _, hacts⟩ := acts_of_deed hdeed
  cases hacts with
  | started htaken hthread => exact hthread

theorem reply_of_ran {a : Action ι} {e : Execution} {reply : Reply} {source : Source}
    (hdeed : sys.deed? d a = some (.ran i h e reply source))
    : reply = d.run sys.trace.executed e := by
  obtain ⟨events, sys', _, hacts⟩ := acts_of_deed hdeed
  cases hacts with
  | ran source hstarted => rfl

theorem answered (hrec : Recorded thread config log past sys) {a : Action ι}
    {r : Except EvalError Bool} (hdeed : sys.deed? d a = some (.returned i r))
    : Answered d log past sys (sys.step d a).1 (sys.step d a).2 i r := by
  obtain ⟨events, sys', hstep, hacts⟩ := acts_of_deed hdeed
  rw [hstep]
  cases hacts with
  | cameBack hfree hnone => exact answered_nothing hrec hfree
  | published hended => exact answered_published hrec hended

theorem serveOne_returned (source : Source) (i : ι) (hfree : sys.workers i = .free)
    (hquiet : sys.session.Quiet) (served : Option Nat)
    : (deeds d [.take i sys.session.takeRequest.1.isNone, .start i, .execute i source, .publish i]
          sys).getLast?
        = some (.returned i (World.serveOne d source ⟨sys.session, sys.trace, served⟩).1) := by
  unfold World.serveOne
  rcases htake : sys.session.takeRequest with ⟨_ | ⟨h, call⟩, session⟩
  · have hpending := Session.takePending_of_quiet hquiet (by rw [htake])
    simp [deeds, deed?, step, hfree, lookOp, Session.event, Op.run, hpending, World.step,
      Event.effect?, Worker.ofEffect, setWorker, htake]
  · cases hthread : session.activeThread with
    | none =>
      simp [deeds, deed?, step, hfree, lookOp, Session.event, Op.run, htake, hthread, World.step,
        Event.effect?, Worker.ofEffect, setWorker, perform, Session.abort]
    | some thread =>
      simp [deeds, deed?, step, hfree, lookOp, Session.event, Op.run, htake, hthread, World.step,
        Event.effect?, Worker.ofEffect, setWorker, perform]

theorem serving_accounted (d : Debuggee) (thread : Thread) (config : Config)
    (actions : List (Action ι)) (hown : ∀ a ∈ actions, a.leavesCalls)
    : let r := run d actions (.new thread config)
      Accounted d r.1 (deeds d actions (.new thread config)) r.2 ∧
        r.2.session.nextHandle ≤ 1 + actions.length := by
  intro r
  have hrec : Recorded thread config r.1 (deeds d actions (.new thread config)) r.2 :=
    recorded_run actions hown (recorded_new thread config)
  refine ⟨?_, nextHandle_run actions (.new thread config)⟩
  exact {
    executed := hrec.executed
    traced := hrec.traced
    balanced := hrec.balanced
    thread := Session.activeThread_run hrec.run rfl
    started := fun a i h thread hdeed => activeThread_of_started hdeed
    ran := fun a i h e reply source hdeed => reply_of_ran hdeed
    answered := fun a i r hdeed => answered hrec hdeed
    alone := fun i source served hfree =>
      serveOne_returned source i hfree (Session.quiet_run hrec.run rfl) served }

/--
The active thread changes before the call is started, its time is up, and another party publishes
an end of it before the control thread does.
-/
theorem serving_accounted_late
    : let call : LiveCall := ⟨"get_Slow", none, []⟩
      let reply := Reply.returned (.null .object)
      let d := Debuggee.ofTables [] [("get_Slow", reply)]
      let actions : List (Action Bool) :=
        [.direct (.request call), .take true false, .direct (.setActiveThread ⟨2⟩), .start true,
          .direct (.expire ⟨1⟩), .execute true .attached,
          .direct (.publish ⟨1⟩ (.fault (.stated "gave up"))), .publish true, .take true true]
      let r := run d actions (.new ⟨1⟩ {})
      (∀ a ∈ actions, a.leavesCalls) ∧
        deeds d actions (.new ⟨1⟩ {}) =
          [.took true ⟨1⟩ call, .started true ⟨1⟩ ⟨2⟩,
            .ran true ⟨1⟩ ⟨⟨2⟩, call⟩ reply .attached,
            .returned true (.error (.invalidOperation (.notOutstanding ⟨1⟩))),
            .returned true (.ok false)] ∧
        Accounted d r.1 (deeds d actions (.new ⟨1⟩ {})) r.2 := by
  intro call reply d actions r
  have hown : ∀ a ∈ actions, a.leavesCalls := by simp [actions, Action.leavesCalls, Op.takes]
  exact ⟨hown, rfl, (serving_accounted d ⟨1⟩ {} actions hown).1⟩

end System

end Inspector
