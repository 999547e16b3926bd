import Inspector.Proofs.Expr.Orderly
import Inspector.Proofs.System.Serving

/-!
Schedules. An evaluation and any number of control threads take turns with one session. However
they do, an evaluation that comes to its end has come to what it comes to when it serves its own
calls.

Main statement: `keeps_step` says that no turn of anybody changes what the evaluation, if it served
its own calls from now on, would come to.
-/

namespace Inspector

open Debuggee (Trace)
open Dialogue (Orderly)

variable {α : Type}

namespace World

section

variable (d : Debuggee) (source : Source)

def servedFor (w : World) : Question → Nat
  | .wait _ =>
    match (w.serveOne d source).1 with
    | .ok true => 1
    | _ => 0
  | _ => 0

def tally : Host (World × Nat)
  | q, (w, n) =>
    (host d (.inline source) q w).map fun (a, w') => (a, w', n + w.servedFor d source q)

end

variable {d : Debuggee} {source : Source}

theorem run_of_tally {x : Dialogue α} {j j' : Journal} {w w' : World} {n n' : Nat} {a : α}
    (hrun : x.run (tally d source) j (w, n) = some (a, j', w', n'))
    : x.run (host d (.inline source)) j w = some (a, j', w') := by
  induction x generalizing j w n with
  | done _ =>
    cases hrun
    rfl
  | report m next ih => exact ih hrun
  | visit id next ih => exact ih hrun
  | ask q next ih =>
    obtain ⟨r, ⟨w₁, n₁⟩, htally, hrun⟩ := Dialogue.run_ask_inv hrun
    obtain ⟨⟨r', w₁'⟩, hhost, heq⟩ := Option.map_eq_some_iff.mp htally
    cases heq
    unfold Dialogue.run
    rw [hhost]
    exact ih _ hrun

variable {j : Journal} {w : World} {n : Nat} {call : LiveCall}

theorem run_tally_request (next : Except EvalError Handle → Dialogue α)
    : (Dialogue.ask (.request call) next).run (tally d source) j (w, n) =
        (next (w.session.request call).1).run (tally d source) j
          ({ w with session := (w.session.request call).2 }, n) := rfl

theorem run_tally_wait {h : Handle} (hslot : w.session.slot = .awaiting h (some call) false)
    (hopen : w.session.closed = false) (told : Except EvalError Outcome → Dialogue α)
    : let r := d.serve source w.session.activeThread call w.trace
      (Dialogue.ask (.wait h) told).run (tally d source) j (w, n) =
        (told r.1.result).run (tally d source) j
          ({ w with session := { w.session with slot := .idle }, trace := r.2 }, n + 1) := by
  intro r
  have hserved : w.servedFor d source (.wait h) = 1 := by
    simp only [servedFor, serveOne_pending d source hslot hopen]
  have htally : tally d source (.wait h) (w, n) = some (r.1.result,
      { w with session := { w.session with slot := .idle }, trace := r.2 }, n + 1) := by
    simp only [tally, host_wait_pending d source hslot hopen, hserved]
    rfl
  rw [Dialogue.run, htally]

end World

structure Underway (ι α : Type) where
  rest : Dialogue α
  journal : Journal
  system : System ι
  served : Nat := 0

inductive Turn (ι : Type) where
  | inspect
  | control (i : ι) (c : System.Chore)

namespace Underway

variable {ι : Type}

/-- One step of the evaluation. A wait that finds nothing is taken up again at its next turn. -/
def inspect (d : Debuggee) (p : Underway ι α) : Underway ι α :=
  match p.rest with
  | .done _ => p
  | .report m next => { p with rest := next, journal := p.journal.report m }
  | .visit id next => { p with rest := next, journal := p.journal.visit id }
  | .ask .permitted next => { p with rest := next p.system.session.propertyEvaluation }
  | .ask (.request call) next =>
    let (r, session) := p.system.session.request call
    { p with rest := next r, system := { p.system with session } }
  | .ask (.wait h) next =>
    match p.system.session.poll h with
    | some (r, session) => { p with rest := next r, system := { p.system with session } }
    | none => p
  | .ask (.readString source a) next =>
    let (r, trace) := d.read source a p.system.trace
    { p with rest := next r, system := { p.system with trace } }

section

variable [DecidableEq ι] (d : Debuggee) (source : Source)

def step (p : Underway ι α) : Turn ι → Underway ι α
  | .inspect => p.inspect d
  | .control i c =>
    let (log, system) := p.system.step d (c.action source i)
    { p with system, served := p.served + System.served log }

def run (turns : List (Turn ι)) (p : Underway ι α) : Underway ι α :=
  turns.foldl (step d source) p

end

def returned? (p : Underway ι α) : Option α :=
  match p.rest with
  | .done a => some a
  | _ => none

def world (control : Option Nat) (p : Underway ι α) : World × Nat :=
  (⟨p.system.session, p.system.trace, control⟩, p.served)

section

variable (d : Debuggee) (source : Source) (control : Option Nat)
  (goal : Option (α × Journal × World × Nat)) (p : Underway ι α)

/-- If the evaluation served its own calls from now on, it would reach the goal. -/
inductive Keeps : Prop where
  | between (hidle : p.system.session.slot = .idle) (hfree : ∀ k, p.system.workers k = .free)
      (hrest : p.rest.Orderly)
      (hgoal : p.rest.run (World.tally d source) p.journal (p.world control) = goal) : Keeps
  | waiting {told : Except EvalError Outcome → Dialogue α} (hrest : p.rest = .ask (.wait h) told)
      (htold : ∀ r, (told r).Orderly) (hway : p.system.OnWay d source h p.served last m)
      (hgoal : (told last.1.result).run (World.tally d source) p.journal
        (⟨{ p.system.session with slot := .idle }, last.2, control⟩, m) = goal) : Keeps

end

variable {d : Debuggee} {source : Source} {control : Option Nat}
  {goal : Option (α × Journal × World × Nat)} {p : Underway ι α}

theorem keeps_request {call : LiveCall} {next : Except EvalError Handle → Dialogue α}
    {told : Handle → Except EvalError Outcome → Dialogue α}
    (hrest : p.rest = .ask (.request call) next) (hrefused : ∀ err, (next (.error err)).Orderly)
    (hgranted : ∀ h, next (.ok h) = .ask (.wait h) (told h)) (htold : ∀ h r, (told h r).Orderly)
    (hidle : p.system.session.slot = .idle) (hfree : ∀ k, p.system.workers k = .free)
    (hgoal : p.rest.run (World.tally d source) p.journal (p.world control) = goal)
    : (p.inspect d).Keeps d source control goal := by
  rw [hrest, world, World.run_tally_request] at hgoal
  by_cases haccepts : p.system.session.Accepts
  · have hrequest := Session.request_accepted haccepts call
    rw [hrequest, hgranted, World.run_tally_wait rfl haccepts.isOpen] at hgoal
    let s : Session := { p.system.session with
      slot := .awaiting ⟨p.system.session.nextHandle⟩ (some call) false
      nextHandle := p.system.session.nextHandle + 1 }
    have hp : p.inspect d = { p with
        rest := next (.ok ⟨p.system.session.nextHandle⟩)
        system := { p.system with session := s } } := by
      simp only [inspect, hrest]
      rw [hrequest]
    rw [hp]
    -- The goal is now what comes of the call when it is served, whoever does that.
    exact .waiting (hgranted _) (htold _) (.pending haccepts.isOpen rfl hfree) hgoal
  · obtain ⟨err, hrequest, _⟩ := Session.request_refused haccepts call
    rw [hrequest] at hgoal
    have hp : p.inspect d = { p with rest := next (.error err) } := by
      simp only [inspect, hrest]
      rw [hrequest]
    rw [hp]
    exact .between hidle hfree (hrefused err) hgoal

theorem keeps_inspect (hkeeps : p.Keeps d source control goal)
    : (p.inspect d).Keeps d source control goal := by
  cases hkeeps with
  | between hidle hfree horderly hgoal =>
    obtain ⟨rest, journal, system, served⟩ := p
    cases horderly with
    | done => exact .between hidle hfree .done hgoal
    | report hnext => exact .between hidle hfree hnext hgoal
    | visit hnext => exact .between hidle hfree hnext hgoal
    | permitted hnext => exact .between hidle hfree (hnext _) hgoal
    | readString hnext => exact .between hidle hfree (hnext _) hgoal
    | request hrefused hgranted htold =>
      exact keeps_request rfl hrefused hgranted htold hidle hfree hgoal
  | @waiting h last m told hrest htold hway hgoal =>
    obtain hnone | ⟨hpoll, hlast, hcount, hfree⟩ := hway.poll
    · have hp : p.inspect d = p := by
        simp only [inspect, hrest, hnone]
      rw [hp]
      exact .waiting hrest htold hway hgoal
    · have hp : p.inspect d = { p with
          rest := told last.1.result
          system := { p.system with session := { p.system.session with slot := .idle } } } := by
        simp only [inspect, hrest, hpoll]
      rw [hlast, hcount] at hgoal
      rw [hp]
      exact .between rfl hfree (htold _) hgoal

theorem nextHandle_inspect (p : Underway ι α)
    : (p.inspect d).system.session.nextHandle ≤ p.system.session.nextHandle + 1 := by
  have hstay : p.system.session.nextHandle ≤ p.system.session.nextHandle + 1 := Nat.le_succ _
  cases hrest : p.rest with
  | done a | report m next | visit id next => simpa only [inspect, hrest] using hstay
  | ask q next =>
    cases q with
    | permitted | readString source a => simpa only [inspect, hrest] using hstay
    | request call =>
      simp only [inspect, hrest]
      exact Session.nextHandle_of_move (Session.move (.request call) p.system.session)
    | wait h =>
      have hmove := Session.nextHandle_of_move (Session.move (.poll h) p.system.session)
      cases hpoll : p.system.session.poll h with
      | none => simpa only [inspect, hrest, hpoll] using hstay
      | some r => simpa only [inspect, hrest, hpoll, Session.Op.run] using hmove

variable [DecidableEq ι]

theorem nextHandle_run (turns : List (Turn ι)) (p : Underway ι α)
    : (p.run d source turns).system.session.nextHandle
      ≤ p.system.session.nextHandle + turns.length := by
  induction turns generalizing p with
  | nil => exact Nat.le_refl _
  | cons turn turns ih =>
    have hstep : (p.step d source turn).system.session.nextHandle
        ≤ p.system.session.nextHandle + 1 := by
      cases turn with
      | inspect => exact nextHandle_inspect p
      | control i c => exact System.nextHandle_step (c.action source i) p.system
    have hrest := ih (p.step d source turn)
    rw [List.length_cons]
    exact Nat.le_trans hrest (by omega)

theorem keeps_control (hkeeps : p.Keeps d source control goal) (i : ι) (c : System.Chore)
    : (p.step d source (.control i c)).Keeps d source control goal := by
  cases hkeeps with
  | between hidle hfree hrest hgoal =>
    obtain ⟨hsame, hserved⟩ := System.step_vain d source c (hfree i) (by simp [hidle])
    have hp : p.step d source (.control i c) = p := by
      simp only [step]
      rw [hsame, hserved]
      rfl
    rw [hp]
    exact .between hidle hfree hrest hgoal
  | waiting hrest htold hway hgoal =>
    -- What is to come is stated without the slot, the only thing that a control thread touches.
    refine .waiting hrest htold (System.onWay_step hway c i) ?_
    obtain ⟨slot, hsession⟩ : ∃ slot, (p.step d source (.control i c)).system.session
        = { p.system.session with slot } := System.session_chore c
    rw [hsession]
    exact hgoal

theorem keeps_run (turns : List (Turn ι)) (hkeeps : p.Keeps d source control goal)
    : (p.run d source turns).Keeps d source control goal := by
  induction turns generalizing p with
  | nil => exact hkeeps
  | cons turn turns ih =>
    apply ih
    cases turn with
    | inspect => exact keeps_inspect hkeeps
    | control i c => exact keeps_control hkeeps i c

end Underway

/--
If an evaluation returns while control threads serve its calls, it has come to what it comes to
when it serves them itself, and so have the session, the debuggee and the number of served calls.
-/
theorem Expr.evaluate_scheduled {ι : Type} [DecidableEq ι] (d : Debuggee) (source served : Source)
    (e : Expr) (j : Journal) (s : Session) (t : Trace) (control : Option Nat)
    (turns : List (Turn ι)) (r : Except EvalError Value) (hidle : s.slot = .idle)
    : let start : Underway ι (Except EvalError Value) :=
        ⟨e.evaluate source, j, { session := s, trace := t }, 0⟩
      let p := start.run d served turns
      p.returned? = some r →
        Dialogue.run (World.host d (.inline served)) (e.evaluate source) j ⟨s, t, control⟩
            = some (r, p.journal, (p.world control).1) ∧
          Dialogue.run (World.tally d served) (e.evaluate source) j (⟨s, t, control⟩, 0)
            = some (r, p.journal, p.world control) ∧
          p.system.session.nextHandle ≤ s.nextHandle + turns.length := by
  intro start p hreturned
  have hdone : p.rest = .done r := by
    unfold Underway.returned? at hreturned
    split at hreturned
    · next hrest => rw [hrest, Option.some.inj hreturned]
    · contradiction
  have hstart : start.Keeps d served control
      (Dialogue.run (World.tally d served) (e.evaluate source) j (⟨s, t, control⟩, 0)) :=
    .between hidle (fun _ => rfl) (orderly_evaluate source e) rfl
  have htally : Dialogue.run (World.tally d served) (e.evaluate source) j (⟨s, t, control⟩, 0)
      = some (r, p.journal, p.world control) := by
    cases Underway.keeps_run turns hstart with
    | between _ _ _ hgoal =>
      rw [hdone] at hgoal
      exact hgoal.symm
    | waiting hrest => cases hdone.symm.trans hrest
  exact ⟨World.run_of_tally htally, htally, Underway.nextHandle_run turns start⟩

theorem Expr.evaluate_scheduled_pair
    : let d := Debuggee.ofTables []
        [("get_Index", .returned (.null .object)), ("Item", .returned (.null .object))]
      let e := ((invoke "Item" none [invoke "get_Index"]).compile (fun _ => some .object) {}).tree
      let s := Session.new ⟨1⟩ {}
      let turns : List (Turn Bool) :=
        [.control true (.take false), .inspect, .inspect, .control false (.take true), .inspect,
          .inspect, .control false (.take true), .control true (.take false), .control false .start,
          .inspect, .control false .execute, .control true .publish, .control false .publish,
          .inspect, .inspect, .control true (.take false), .control true .start,
          .control true .execute, .inspect, .control true .publish, .control false (.take false),
          .inspect]
      let start : Underway Bool (Except EvalError Value) :=
        ⟨e.evaluate .attached, {}, { session := s }, 0⟩
      let p := start.run d .attached turns
      s.slot = .idle ∧ p.returned? = some (.ok (.null .object)) ∧ p.served = 2 ∧
        Dialogue.run (World.host d (.inline .attached)) (e.evaluate .attached) {} ⟨s, {}, none⟩
          = some (.ok (.null .object), p.journal, (p.world none).1) ∧
        Dialogue.run (World.tally d .attached) (e.evaluate .attached) {} (⟨s, {}, none⟩, 0)
          = some (.ok (.null .object), p.journal, p.world none) := by
  intro d e s turns start p
  have hserved : p.served = 2 := by
    decide +kernel
  have hvalue : p.returned?.bind Except.toOption = some (.null .object) := by
    decide +kernel
  obtain ⟨r, hr, hv⟩ := Option.bind_eq_some_iff.mp hvalue
  have hreturned : p.returned? = some (.ok (.null .object)) := by
    cases r with
    | ok v =>
      rw [hr, Option.some.inj hv]
    | error err => nomatch hv
  have hsame := evaluate_scheduled d .attached .attached e {} s {} none turns _ rfl hreturned
  exact ⟨rfl, hreturned, hserved, hsame.1, hsame.2.1⟩

end Inspector
