import Inspector.Proofs.Session.Outcomes
import Inspector.Proofs.System

/-!
The deeds of control threads: what they do about the calls that they take, and what they tell those
who have them serve one. No party can see them; they are a record of a run.

Main statement: `recorded_run` says how far each call has come that was handed out, and that the
debuggee has run these calls and no others.
-/

namespace Inspector

open Session (Op Event handedOut)

namespace System

inductive Deed (ι : Type) where
  | took (i : ι) (h : Handle) (call : LiveCall)
  | started (i : ι) (h : Handle) (thread : Thread)
  | ran (i : ι) (h : Handle) (e : Execution) (reply : Reply) (source : Source)
  | returned (i : ι) (r : Except EvalError Bool)

variable {ι : Type}

namespace Deed

def handle? : Deed ι → Option Handle
  | took _ h _ | started _ h _ | ran _ h .. => some h
  | returned .. => none

def execution? : Deed ι → Option Execution
  | ran _ _ e .. => some e
  | _ => none

def ran? : Deed ι → Option (Handle × LiveCall)
  | ran _ h e .. => some (h, e.call)
  | _ => none

end Deed

def deedsOf (deeds : List (Deed ι)) (h : Handle) : List (Deed ι) :=
  deeds.filter (·.handle? = some h)

variable {past past' : List (Deed ι)} {h : Handle} {x : Deed ι}

theorem deedsOf_concat_of_eq (hx : x.handle? = some h)
    : deedsOf (past ++ [x]) h = deedsOf past h ++ [x] := by
  simp [deedsOf, hx]

theorem deedsOf_concat_of_ne (hx : x.handle? ≠ some h)
    : deedsOf (past ++ [x]) h = deedsOf past h := by
  simp [deedsOf, hx]

theorem executions_concat_of_none (hx : x.execution? = none)
    : (past ++ [x]).filterMap Deed.execution? = past.filterMap Deed.execution? := by
  rw [List.filterMap_append, List.filterMap_cons_none hx, List.filterMap_nil, List.append_nil]

inductive Stage (i : ι) (h : Handle) (call : LiveCall) : Worker → List (Deed ι) → Prop where
  | taken : Stage i h call (.taken h call) [.took i h call]
  | started (thread : Thread) :
    Stage i h call (.started h call thread) [.took i h call, .started i h thread]
  | ended (thread : Thread) (reply : Reply) (source : Source) :
    Stage i h call (.ended h (reply.delivery source))
      [.took i h call, .started i h thread, .ran i h ⟨thread, call⟩ reply source]

/--
An evaluation whose call was handed out has been taken by one control thread, which has run the call
once, on the thread on which it started it, or has not come to that yet.
-/
inductive Traced (log : List Event) (deeds : List (Deed ι)) (workers : ι → Worker) (h : Handle) :
    Prop where
  | untaken (hout : handedOut log h = []) (hdeeds : deedsOf deeds h = [])
    (hnone : ∀ i, (workers i).running? ≠ some h)
  | held {i call} (hout : handedOut log h = [call])
    (honly : ∀ j, (workers j).running? = some h ↔ j = i)
    (hstage : Stage i h call (workers i) (deedsOf deeds h))
  | served {i call} (thread : Thread) (reply : Reply) (source : Source)
    (hout : handedOut log h = [call])
    (hdeeds : deedsOf deeds h =
      [.took i h call, .started i h thread, .ran i h ⟨thread, call⟩ reply source])
    (hnone : ∀ i, (workers i).running? ≠ some h)

variable {log log' : List Event} {workers : ι → Worker}

theorem Traced.same (htraced : Traced log past workers h)
    (hout : handedOut log' h = handedOut log h) (hdeeds : deedsOf past' h = deedsOf past h)
    : Traced log' past' workers h := by
  cases htraced with
  | untaken hout' hdeeds' hnone => exact .untaken (hout.trans hout') (hdeeds.trans hdeeds') hnone
  | held hout' honly hstage =>
    apply Traced.held (hout.trans hout') honly
    rw [hdeeds]
    exact hstage
  | served thread reply source hout' hdeeds' hnone =>
    exact .served thread reply source (hout.trans hout') (hdeeds.trans hdeeds') hnone

theorem Traced.of_running {i : ι} (htraced : Traced log past workers h)
    (hrun : (workers i).running? = some h)
    : ∃ call, handedOut log h = [call] ∧ (∀ j, (workers j).running? = some h ↔ j = i) ∧
        Stage i h call (workers i) (deedsOf past h) := by
  cases htraced with
  | untaken _ _ hnone | served _ _ _ _ _ hnone => exact absurd hrun (hnone i)
  | @held j call hout honly hstage =>
    obtain rfl : i = j := (honly i).mp hrun
    exact ⟨call, hout, honly, hstage⟩

variable [DecidableEq ι]

def Deed.hold (i : ι) (held : Option Handle) : Deed ι → Option Handle
  | .took j h _ => if j = i then some h else held
  | .returned j _ => if j = i then none else held
  | _ => held

def holding (deeds : List (Deed ι)) (i : ι) : Option Handle :=
  deeds.foldl (Deed.hold i) none

variable (d : Debuggee)

/--
A control thread comes back without a call when its time is up or the session is closed, and until
then it goes on looking. Whatever came of a call, a publication that is accepted ends the service
well.
-/
def deed? (sys : System ι) : Action ι → Option (Deed ι)
  | .direct _ => none
  | .take i late =>
    match sys.workers i with
    | .free =>
      match (sys.session.event (lookOp late)).effect? with
      | some (.handedOut h call) => some (.took i h call)
      | _ => if late || sys.session.closed then some (.returned i (.ok false)) else none
    | _ => none
  | .start i =>
    match sys.workers i, sys.session.activeThread with
    | .taken h _, some thread => some (.started i h thread)
    | _, _ => none
  | .execute i source =>
    match sys.workers i with
    | .started h call thread =>
      some (.ran i h ⟨thread, call⟩ (d.execute thread call sys.trace).1 source)
    | _ => none
  | .publish i =>
    match sys.workers i with
    | .ended h delivery =>
      some (.returned i ((sys.session.publish h delivery).1.map fun _ => true))
    | _ => none

def deeds : List (Action ι) → System ι → List (Deed ι)
  | [], _ => []
  | a :: as, sys => (sys.deed? d a).toList ++ deeds as (sys.step d a).2

inductive Acts (sys : System ι) :
    Action ι → List Event → Option (Deed ι) → System ι → Prop where
  | direct (op : Op) : Acts sys (.direct op) [sys.session.event op] none (sys.perform op)
  | took {i late h call} (hfree : sys.workers i = .free)
    (heff : (sys.session.event (lookOp late)).effect? = some (.handedOut h call)) :
    Acts sys (.take i late) [sys.session.event (lookOp late)] (some (.took i h call))
      ((sys.perform (lookOp late)).setWorker i (.taken h call))
  | lookedOn {i late} (hfree : sys.workers i = .free)
    (hnone : ∀ h call, (sys.session.event (lookOp late)).effect? ≠ some (.handedOut h call)) :
    Acts sys (.take i late) [sys.session.event (lookOp late)] none (sys.perform (lookOp late))
  | cameBack {i late} (hfree : sys.workers i = .free)
    (hnone : ∀ h call, (sys.session.event (lookOp late)).effect? ≠ some (.handedOut h call)) :
    Acts sys (.take i late) [sys.session.event (lookOp late)] (some (.returned i (.ok false)))
      (sys.perform (lookOp late))
  | started {i h call thread} (htaken : sys.workers i = .taken h call)
    (hthread : sys.session.activeThread = some thread) :
    Acts sys (.start i) [] (some (.started i h thread))
      (sys.setWorker i (.started h call thread))
  | stranded {i h call} (htaken : sys.workers i = .taken h call)
    (hthread : sys.session.activeThread = none) :
    Acts sys (.start i) [] none (sys.setWorker i (.ended h (.fault .noActiveThread)))
  | ran {i h call thread} (source : Source) (hstarted : sys.workers i = .started h call thread) :
    Acts sys (.execute i source) []
      (some (.ran i h ⟨thread, call⟩ (d.execute thread call sys.trace).1 source))
      ({ sys with trace := (d.execute thread call sys.trace).2 }.setWorker i
        (.ended h ((d.execute thread call sys.trace).1.delivery source)))
  | published {i h delivery} (hended : sys.workers i = .ended h delivery) :
    Acts sys (.publish i) [sys.session.event (.publish h delivery)]
      (some (.returned i ((sys.session.publish h delivery).1.map fun _ => true)))
      ((sys.perform (.publish h delivery)).setWorker i .free)
  | stay (a : Action ι) : Acts sys a [] none sys

variable {d} {sys sys' : System ι}

theorem setWorker_free {i : ι} (hfree : sys.workers i = .free) : sys.setWorker i .free = sys := by
  have hstay : Function.update sys.workers i .free = sys.workers := by
    rw [← hfree]
    apply Function.update_eq_self
  simp [setWorker, hstay]

theorem acts (a : Action ι) (sys : System ι)
    : Acts d sys a (sys.step d a).1 (sys.deed? d a) (sys.step d a).2 := by
  cases a with
  | direct op => exact .direct op
  | take i late =>
    cases hworker : sys.workers i with
    | free =>
      have hstay : (sys.perform (lookOp late)).setWorker i .free = sys.perform (lookOp late) :=
        setWorker_free hworker
      simp only [step, deed?, hworker]
      split
      · next h call heff =>
        rw [heff]
        exact .took hworker heff
      · next hnone =>
        have hnone : ∀ h call,
            (sys.session.event (lookOp late)).effect? ≠ some (.handedOut h call) := by
          intro h call heff
          exact hnone h call heff
        have hfree : Worker.ofEffect (sys.session.event (lookOp late)).effect? = .free := by
          unfold Worker.ofEffect
          split
          · next heff => exact absurd heff (hnone _ _)
          · rfl
        rw [hfree, hstay]
        split
        · exact .cameBack hworker hnone
        · exact .lookedOn hworker hnone
    | taken | started | ended =>
      simp only [step, deed?, hworker]
      exact .stay _
  | start i =>
    cases hworker : sys.workers i with
    | taken h call =>
      cases hthread : sys.session.activeThread with
      | some thread =>
        simp only [step, deed?, hworker, hthread]
        exact .started hworker hthread
      | none =>
        simp only [step, deed?, hworker, hthread]
        exact .stranded hworker hthread
    | free | started | ended =>
      simp only [step, deed?, hworker]
      exact .stay _
  | execute i source =>
    cases hworker : sys.workers i with
    | started h call thread =>
      simp only [step, deed?, hworker]
      exact .ran source hworker
    | free | taken | ended =>
      simp only [step, deed?, hworker]
      exact .stay _
  | publish i =>
    cases hworker : sys.workers i with
    | ended h delivery =>
      simp only [step, deed?, hworker]
      exact .published hworker
    | free | taken | started =>
      simp only [step, deed?, hworker]
      exact .stay _

theorem acts_of_deed {a : Action ι} {x : Deed ι} (hdeed : sys.deed? d a = some x)
    : ∃ events sys', sys.step d a = (events, sys') ∧ Acts d sys a events (some x) sys' := by
  rw [← hdeed]
  exact ⟨_, _, rfl, acts a sys⟩

variable {w : Worker} {i : ι}

theorem holding_concat (past : List (Deed ι)) (x : Deed ι) (i : ι)
    : holding (past ++ [x]) i = x.hold i (holding past i) := by
  simp [holding, List.foldl_append]

theorem holding_update (hholding : ∀ j, holding past j = (workers j).running?)
    (hself : x.hold i (workers i).running? = w.running?)
    (hothers : ∀ j held, j ≠ i → x.hold j held = held)
    : ∀ j, holding (past ++ [x]) j = (Function.update workers i w j).running? := by
  intro j
  rw [holding_concat, hholding]
  by_cases hj : j = i
  · subst hj
    rw [hself, Function.update_self]
  · rw [hothers j _ hj, Function.update_of_ne hj]

theorem Traced.other (htraced : Traced log past workers h) (i : ι)
    (hout : handedOut log' h = handedOut log h) (hdeeds : deedsOf past' h = deedsOf past h)
    (hbefore : (workers i).running? ≠ some h) (hafter : w.running? ≠ some h)
    : Traced log' past' (Function.update workers i w) h := by
  have hsame : ∀ j, (Function.update workers i w j).running? = some h ↔
      (workers j).running? = some h := by
    intro j
    by_cases hj : j = i
    · subst hj
      simp [hbefore, hafter]
    · simp [hj]
  cases htraced with
  | untaken hout' hdeeds' hnone =>
    refine .untaken (hout.trans hout') (hdeeds.trans hdeeds') ?_
    intro j hj
    exact hnone j ((hsame j).mp hj)
  | @held k call hout' honly hstage =>
    have hki : k ≠ i := by
      rintro rfl
      exact hbefore ((honly k).mpr rfl)
    apply Traced.held (hout.trans hout')
    · intro j
      rw [hsame, honly]
    · rw [hdeeds, Function.update_of_ne hki]
      exact hstage
  | served thread reply source hout' hdeeds' hnone =>
    refine .served thread reply source (hout.trans hout') (hdeeds.trans hdeeds') ?_
    intro j hj
    exact hnone j ((hsame j).mp hj)

theorem traced_took {call : LiveCall} (htraced : ∀ h, Traced log past workers h)
    (hfree : workers i = .free) (hout : handedOut log h = [])
    (hnow : handedOut log' h = [call]) (hsame : ∀ h', h' ≠ h → handedOut log' h' = handedOut log h')
    : ∀ h', Traced log' (past ++ [.took i h call])
        (Function.update workers i (.taken h call)) h' := by
  intro h'
  have hidle : (workers i).running? = none := by rw [hfree, Worker.running?]
  by_cases hh : h' = h
  · subst hh
    cases htraced h' with
    | untaken _ hdeeds hnone =>
      apply Traced.held (i := i) hnow
      · intro j
        by_cases hj : j = i
        · subst hj
          simp [Worker.running?]
        · simp [hj, hnone]
      · rw [deedsOf_concat_of_eq rfl, hdeeds, Function.update_self]
        exact .taken
    | held hout' | served _ _ _ hout' =>
      rw [hout] at hout'
      contradiction
  · apply (htraced h').other i (hsame h' hh)
    · exact deedsOf_concat_of_ne (by simpa [Deed.handle?] using Ne.symm hh)
    · simp [hidle]
    · simpa [Worker.running?] using Ne.symm hh

theorem traced_advance (htraced : ∀ h, Traced log past workers h) (hx : x.handle? = some h)
    (hbefore : (workers i).running? = some h) (hafter : w.running? = some h)
    (hstage : ∀ call ds, Stage i h call (workers i) ds → Stage i h call w (ds ++ [x]))
    : ∀ h', Traced log (past ++ [x]) (Function.update workers i w) h' := by
  intro h'
  by_cases hh : h' = h
  · subst hh
    obtain ⟨call, hout, honly, hstage'⟩ := (htraced h').of_running hbefore
    apply Traced.held (i := i) hout
    · intro j
      by_cases hj : j = i
      · subst hj
        simp [hafter]
      · simp [hj, honly]
    · rw [deedsOf_concat_of_eq hx, Function.update_self]
      exact hstage call _ hstage'
  · apply (htraced h').other i rfl
    · exact deedsOf_concat_of_ne (by simpa [hx] using Ne.symm hh)
    · simpa [hbefore] using Ne.symm hh
    · simpa [hafter] using Ne.symm hh

theorem traced_published {delivery : Delivery} (htraced : ∀ h, Traced log past workers h)
    (hended : workers i = .ended h delivery)
    (hout : ∀ h', handedOut log' h' = handedOut log h')
    (hdeeds : ∀ h', deedsOf past' h' = deedsOf past h')
    : ∀ h', Traced log' past' (Function.update workers i .free) h' := by
  intro h'
  have hbefore : (workers i).running? = some h := by rw [hended, Worker.running?]
  by_cases hh : h' = h
  · subst hh
    obtain ⟨call, hout', honly, hstage⟩ := (htraced h').of_running hbefore
    generalize hds : deedsOf past h' = ds at hstage
    rw [hended] at hstage
    cases hstage with
    | ended thread reply source =>
      refine .served thread reply source ((hout h').trans hout') ((hdeeds h').trans hds) ?_
      intro j
      by_cases hj : j = i
      · subst hj
        simp [Worker.running?]
      · simp [hj, honly]
  · apply (htraced h').other i (hout h') (hdeeds h')
    · simpa [hbefore] using Ne.symm hh
    · simp [Worker.running?]

def Action.leavesCalls : Action ι → Bool
  | .direct op => !op.takes
  | _ => true

structure Recorded (thread : Thread) (config : Config) (log : List Event) (past : List (Deed ι))
    (sys : System ι) : Prop where
  run : Session.Run (.new thread config) log sys.session
  executed : sys.trace.executed = past.filterMap Deed.execution?
  holding : ∀ i, holding past i = (sys.workers i).running?
  traced : ∀ h, Traced log past sys.workers h

variable {thread : Thread} {config : Config}

theorem recorded_new (thread : Thread) (config : Config)
    : Recorded thread config [] [] (System.new thread config : System ι) where
  run := .start
  executed := rfl
  holding _ := rfl
  traced _ := .untaken rfl rfl (by simp [System.new, Worker.running?])

theorem handedOut_concat_of_none {e : Event}
    (hnone : ∀ h call, e.effect? ≠ some (.handedOut h call)) (log : List Event) (h : Handle)
    : handedOut (log ++ [e]) h = handedOut log h := by
  apply Session.effects_concat_of_ne
  intro effect call heff hcall
  rw [Session.Effect.eq_of_handedOut? hcall] at heff
  exact hnone h call heff

theorem handedOut_took (hrec : Recorded thread config log past sys) {op : Op} {call : LiveCall}
    (heff : (sys.session.event op).effect? = some (.handedOut h call))
    : handedOut log h = [] ∧ handedOut (log ++ [sys.session.event op]) h = [call] ∧
        ∀ h', h' ≠ h → handedOut (log ++ [sys.session.event op]) h' = handedOut log h' := by
  have hlog := Session.chronicle_run hrec.run rfl rfl
  obtain ⟨abandoned, hslot, _⟩ := Session.slot_of_handedOut (Session.move op sys.session) heff
  have hnone : handedOut log h = [] := by
    have hagrees := hlog.slot
    rw [hslot] at hagrees
    cases hagrees with
    | pending _ hout => exact hout
  refine ⟨hnone, ?_, ?_⟩
  · simp [Session.handedOut_concat, heff, Session.Effect.handedOut?, hnone]
  · intro h' hne
    simp [Session.handedOut_concat, heff, Session.Effect.handedOut?, Ne.symm hne]

theorem Recorded.silent (hrec : Recorded thread config log past sys) {op : Op}
    (hnone : ∀ h call, (sys.session.event op).effect? ≠ some (.handedOut h call))
    : Recorded thread config (log ++ [sys.session.event op])
        (past ++ (none : Option (Deed ι)).toList) (sys.perform op) := by
  rw [Option.toList_none, List.append_nil]
  refine ⟨.step op hrec.run, hrec.executed, hrec.holding, ?_⟩
  intro h
  exact (hrec.traced h).same (handedOut_concat_of_none hnone log h) rfl

theorem recorded_acts {a : Action ι} {es : List Event} {deed : Option (Deed ι)}
    (hrec : Recorded thread config log past sys) (hown : a.leavesCalls)
    (hacts : Acts d sys a es deed sys') (hrun : Session.Run sys.session es sys'.session)
    : Recorded thread config (log ++ es) (past ++ deed.toList) sys' := by
  have hrun := hrec.run.append hrun
  have ⟨_, hexecuted, hholding, htraced⟩ := hrec
  cases hacts with
  | direct op =>
    have htakes : op.takes = false := by simpa [Action.leavesCalls] using hown
    exact hrec.silent (Session.effect?_ne_handedOut htakes sys.session)
  | took hfree heff =>
    have ⟨hout, hnow, hsame⟩ := handedOut_took hrec heff
    refine ⟨hrun, ?_, ?_, traced_took htraced hfree hout hnow hsame⟩
    · exact hexecuted.trans (executions_concat_of_none rfl).symm
    · apply holding_update hholding
      · simp [Deed.hold, Worker.running?]
      · intro j held hj
        simp [Deed.hold, Ne.symm hj]
  | lookedOn hfree hnone => exact hrec.silent hnone
  | @cameBack i late hfree hnone =>
    refine ⟨hrun, ?_, ?_, ?_⟩
    · exact hexecuted.trans (executions_concat_of_none rfl).symm
    · intro j
      rw [Option.toList_some, holding_concat, hholding, workers_perform]
      unfold Deed.hold
      dsimp only
      split
      · next hij => rw [← hij, hfree, Worker.running?]
      · rfl
    · intro h
      apply (htraced h).same (handedOut_concat_of_none hnone log h)
      exact deedsOf_concat_of_ne (by simp [Deed.handle?])
  | @started i h call thread' htaken hthread =>
    have hbefore : (sys.workers i).running? = some h := by rw [htaken, Worker.running?]
    rw [List.append_nil] at hrun ⊢
    refine ⟨hrun, ?_, ?_, ?_⟩
    · exact hexecuted.trans (executions_concat_of_none rfl).symm
    · apply holding_update hholding
      · exact hbefore
      · intro j held hj
        rfl
    · apply traced_advance htraced rfl hbefore rfl
      intro call ds hstage
      rw [htaken] at hstage
      cases hstage
      exact .started thread'
  | stranded htaken hthread =>
    -- A session never loses its active thread.
    obtain ⟨thread', hthread'⟩ := Session.activeThread_run hrec.run rfl
    simp [hthread'] at hthread
  | @ran i h call thread' source hstarted =>
    have hbefore : (sys.workers i).running? = some h := by rw [hstarted, Worker.running?]
    rw [List.append_nil] at hrun ⊢
    refine ⟨hrun, ?_, ?_, ?_⟩
    · simp [Deed.execution?, hexecuted]
    · apply holding_update hholding
      · exact hbefore
      · intro j held hj
        rfl
    · apply traced_advance htraced rfl hbefore rfl
      intro call ds hstage
      rw [hstarted] at hstage
      cases hstage
      exact .ended thread' _ source
  | @published i h delivery hended =>
    have htakes : (Op.publish h delivery).takes = false := rfl
    have hnone := Session.effect?_ne_handedOut htakes sys.session
    refine ⟨hrun, ?_, ?_, ?_⟩
    · exact hexecuted.trans (executions_concat_of_none rfl).symm
    · apply holding_update hholding
      · simp [Deed.hold, Worker.running?]
      · intro j held hj
        simp [Deed.hold, Ne.symm hj]
    · apply traced_published htraced hended
      · exact handedOut_concat_of_none hnone log
      · intro h'
        exact deedsOf_concat_of_ne (by simp [Deed.handle?])
  | stay a =>
    simp only [Option.toList_none, List.append_nil] at hrun ⊢
    exact ⟨hrun, hexecuted, hholding, htraced⟩

theorem recorded_step (hrec : Recorded thread config log past sys) (a : Action ι)
    (hown : a.leavesCalls)
    : Recorded thread config (log ++ (sys.step d a).1) (past ++ (sys.deed? d a).toList)
        (sys.step d a).2 :=
  recorded_acts hrec hown (acts a sys) (step_session a sys)

theorem recorded_run (actions : List (Action ι)) (hown : ∀ a ∈ actions, a.leavesCalls)
    (hrec : Recorded thread config log past sys)
    : Recorded thread config (log ++ (run d actions sys).1) (past ++ deeds d actions sys)
        (run d actions sys).2 := by
  induction actions generalizing log past sys with
  | nil => simpa [run, deeds] using hrec
  | cons a as ih =>
    simp only [List.mem_cons, forall_eq_or_imp] at hown
    simp only [run, deeds, ← List.append_assoc]
    exact ih hown.2 (recorded_step hrec a hown.1)

end System

end Inspector
