import Inspector.Proofs.System
import Inspector.Proofs.World

/-!
Calls on their way. From its request until its waiter is told, a call is pending, or in the hands
of one control thread, or finished, and what will come of it is settled all that time.

Main statement: `onWay_step` says that no control thread can change that.
-/

namespace Inspector

open Debuggee (Trace)

def Session.Event.isServed : Session.Event → Bool
  | ⟨.publish .., .ok _⟩ => true
  | _ => false

def Worker.comesTo (d : Debuggee) (source : Source) (thread : Option Thread) (t : Trace)
    : Worker → Option (Handle × Delivery × Trace)
  | free => none
  | taken h call => some (h, d.serve source thread call t)
  | started h call thread => some (h, d.serve source (some thread) call t)
  | ended h delivery => some (h, delivery, t)

namespace System

open Session (Op Event)

inductive Chore where
  | take (late : Bool)
  | start
  | execute
  | publish

variable {ι : Type}

def Chore.action (source : Source) (i : ι) : Chore → Action ι
  | take late => .take i late
  | start => .start i
  | execute => .execute i source
  | publish => .publish i

def served (log : List Event) : Nat := log.countP Event.isServed

section

variable (d : Debuggee) (source : Source) (h : Handle) (sys : System ι) (n : Nat)

/--
A call has been asked for and nobody has been told what came of it. In the end it comes to `last`,
and if `n` calls have been served now, then `m` will have been.
-/
inductive OnWay : (last : Delivery × Trace) → (m : Nat) → Prop where
  | pending (hopen : sys.session.closed = false)
      (hslot : sys.session.slot = .awaiting h (some call) false)
      (hfree : ∀ k, sys.workers k = .free)
      : OnWay (d.serve source sys.session.activeThread call sys.trace) (n + 1)
  | held (i : ι) (hslot : sys.session.slot = .awaiting h none false)
      (hholds : (sys.workers i).comesTo d source sys.session.activeThread sys.trace
        = some (h, last))
      (hfree : ∀ k, k ≠ i → sys.workers k = .free) : OnWay last (n + 1)
  | finished (hslot : sys.session.slot = .finished h delivery)
      (hfree : ∀ k, sys.workers k = .free) : OnWay (delivery, sys.trace) n

end

theorem OnWay.poll {d : Debuggee} {source : Source} {h : Handle} {sys : System ι} {n m : Nat}
    {last : Delivery × Trace} (hway : sys.OnWay d source h n last m)
    : sys.session.poll h = none ∨
        sys.session.poll h = some (last.1.result, { sys.session with slot := .idle }) ∧
          last.2 = sys.trace ∧ m = n ∧ ∀ k, sys.workers k = .free := by
  cases hway with
  | pending _ hslot _ | held _ hslot _ _ =>
    apply Or.inl
    simp [Session.poll, hslot]
  | finished hslot hfree => exact .inr ⟨Session.poll_finished hslot, rfl, rfl, hfree⟩

variable [DecidableEq ι] {d : Debuggee} {source : Source} {sys : System ι} {i : ι}

theorem session_lookOp (late : Bool) (s : Session)
    : ∃ slot, ((lookOp late).run s).2 = { s with slot } := by
  have hpending : ∃ slot, s.takePending.2 = { s with slot } := by
    unfold Session.takePending
    split
    · exact ⟨_, rfl⟩
    · exact ⟨s.slot, rfl⟩
  cases late with
  | true => exact hpending
  | false =>
    show ∃ slot, s.takeRequest.2 = { s with slot }
    unfold Session.takeRequest
    split
    · exact ⟨s.slot, rfl⟩
    · exact hpending

theorem session_publish (h : Handle) (delivery : Delivery) (s : Session)
    : ∃ slot, (s.publish h delivery).2 = { s with slot } := by
  unfold Session.publish
  split
  · split
    · exact ⟨s.slot, rfl⟩
    · split <;> exact ⟨_, rfl⟩
  · exact ⟨s.slot, rfl⟩

theorem session_chore (c : Chore)
    : ∃ slot, (sys.step d (c.action source i)).2.session = { sys.session with slot } := by
  have hsame : ∃ slot, sys.session = { sys.session with slot } := ⟨sys.session.slot, rfl⟩
  cases c with
  | take late =>
    unfold Chore.action step
    dsimp only
    split
    · apply session_lookOp
    · exact hsame
  | start =>
    unfold Chore.action step
    dsimp only
    split
    · split <;> exact hsame
    · exact hsame
  | execute =>
    unfold Chore.action step
    dsimp only
    split <;> exact hsame
  | publish =>
    unfold Chore.action step
    dsimp only
    split
    · apply session_publish
    · exact hsame

theorem setWorker_self {w : Worker} (hworker : sys.workers i = w) : sys.setWorker i w = sys := by
  unfold setWorker
  rw [← hworker, Function.update_eq_self]

theorem step_vain (d : Debuggee) (source : Source) (c : Chore) (hfree : sys.workers i = .free)
    (hnone : ∀ h call abandoned, sys.session.slot ≠ .awaiting h (some call) abandoned)
    : (sys.step d (c.action source i)).2 = sys ∧
        served (sys.step d (c.action source i)).1 = 0 := by
  have hpending : sys.session.takePending = (none, sys.session) := by
    unfold Session.takePending
    split
    · next hslot => exact absurd hslot (hnone _ _ _)
    · rfl
  have hrequest : sys.session.takeRequest = (none, sys.session) := by
    unfold Session.takeRequest
    split
    · rfl
    · exact hpending
  have hstay := setWorker_self hfree
  cases c with
  | take late =>
    cases late with
    | true =>
      simp [Chore.action, step, hfree, lookOp, Session.event, perform, Op.run, hpending,
        Event.effect?, Worker.ofEffect, hstay, served, Event.isServed]
    | false =>
      simp [Chore.action, step, hfree, lookOp, Session.event, perform, Op.run, hrequest,
        Event.effect?, Worker.ofEffect, hstay, served, Event.isServed]
  | start | execute | publish => simp [Chore.action, step, hfree, served]

variable {h : Handle} {n m : Nat} {last : Delivery × Trace}

theorem OnWay.setWorker {w : Worker} (hslot : sys.session.slot = .awaiting h none false)
    (hholds : w.comesTo d source sys.session.activeThread sys.trace = some (h, last))
    (hfree : ∀ k, k ≠ i → sys.workers k = .free)
    : (sys.setWorker i w).OnWay d source h n last (n + 1) := by
  apply OnWay.held i
  · exact hslot
  · simpa using hholds
  · intro k hk
    simp [hk, hfree k]

theorem OnWay.take {call : LiveCall} (hopen : sys.session.closed = false)
    (hslot : sys.session.slot = .awaiting h (some call) false)
    (hfree : ∀ k, sys.workers k = .free) (late : Bool) (i : ι)
    : let r := sys.step d (.take i late)
      r.2.OnWay d source h (n + served r.1)
        (d.serve source sys.session.activeThread call sys.trace) (n + 1) := by
  intro r
  let sys' : System ι :=
    { sys with session := { sys.session with slot := .awaiting h none false } }
  have hr : r.2 = sys'.setWorker i (.taken h call) ∧ served r.1 = 0 := by
    cases late <;>
      simp [r, sys', step, hfree i, lookOp, Session.event, perform, Op.run, Session.takeRequest,
        hopen, Session.takePending, hslot, Event.effect?, Worker.ofEffect, System.setWorker, served,
        Event.isServed]
  rw [hr.1, hr.2]
  exact .setWorker rfl rfl fun k _ => hfree k

theorem OnWay.publish {delivery : Delivery} (hslot : sys.session.slot = .awaiting h none false)
    (hworker : sys.workers i = .ended h delivery) (hfree : ∀ k, k ≠ i → sys.workers k = .free)
    : let r := sys.step d (.publish i)
      r.2.OnWay d source h (n + served r.1) (delivery, sys.trace) (n + 1) := by
  intro r
  let sys' : System ι :=
    { sys with session := { sys.session with slot := .finished h delivery } }
  have hr : r.2 = sys'.setWorker i .free ∧ served r.1 = 1 := by
    simp [r, sys', step, hworker, perform, Op.run, Session.publish, hslot, served, Event.isServed,
      Session.event, System.setWorker]
  rw [hr.1, hr.2]
  apply OnWay.finished rfl
  intro k
  by_cases hki : k = i
  · simp [hki]
  · simpa [hki] using hfree k hki

theorem OnWay.proceed (hslot : sys.session.slot = .awaiting h none false)
    (hholds : (sys.workers i).comesTo d source sys.session.activeThread sys.trace = some (h, last))
    (hfree : ∀ k, k ≠ i → sys.workers k = .free) (c : Chore)
    : let r := sys.step d (c.action source i)
      r.2.OnWay d source h (n + served r.1) last (n + 1) := by
  intro r
  have hstay : r = ([], sys) → r.2.OnWay d source h (n + served r.1) last (n + 1) := by
    intro hr
    rw [hr]
    exact .held i hslot hholds hfree
  -- In each phase one chore is due, and any other one has no effect.
  cases hworker : sys.workers i with
  | free =>
    rw [hworker] at hholds
    contradiction
  | taken h' call =>
    rw [hworker] at hholds
    obtain ⟨rfl, rfl⟩ := Prod.mk.inj (Option.some.inj hholds)
    cases c with
    | start =>
      cases hthread : sys.session.activeThread with
      | none =>
        have hr : r = ([], sys.setWorker i (.ended h' (.fault .noActiveThread))) := by
          simp [r, Chore.action, step, hworker, hthread]
        rw [hr]
        exact .setWorker hslot rfl hfree
      | some thread =>
        have hr : r = ([], sys.setWorker i (.started h' call thread)) := by
          simp [r, Chore.action, step, hworker, hthread]
        rw [hr]
        exact .setWorker hslot rfl hfree
    | take late | execute | publish =>
      apply hstay
      simp [r, Chore.action, step, hworker]
  | started h' call thread =>
    rw [hworker] at hholds
    obtain ⟨rfl, rfl⟩ := Prod.mk.inj (Option.some.inj hholds)
    cases c with
    | execute =>
      let reply := d.execute thread call sys.trace
      let sys' : System ι := { sys with trace := reply.2 }
      have hr : r = ([], sys'.setWorker i (.ended h' (reply.1.delivery source))) := by
        simp [r, sys', reply, Chore.action, step, hworker]
      rw [hr]
      exact .setWorker hslot rfl hfree
    | take late | start | publish =>
      apply hstay
      simp [r, Chore.action, step, hworker]
  | ended h' delivery =>
    rw [hworker] at hholds
    obtain ⟨rfl, rfl⟩ := Prod.mk.inj (Option.some.inj hholds)
    cases c with
    | publish => exact OnWay.publish hslot hworker hfree
    | take late | start | execute =>
      apply hstay
      simp [r, Chore.action, step, hworker]

theorem onWay_step (hway : sys.OnWay d source h n last m) (c : Chore) (i : ι)
    : let r := sys.step d (c.action source i)
      r.2.OnWay d source h (n + served r.1) last m := by
  intro r
  cases hway with
  | @pending call hopen hslot hfree =>
    cases c with
    | take late => exact OnWay.take hopen hslot hfree late i
    | start | execute | publish =>
      have hr : r = ([], sys) := by
        simp [r, Chore.action, step, hfree i]
      rw [hr]
      exact .pending hopen hslot hfree
  | held k hslot hholds hfree =>
    -- The slot has no call any more, so all other threads look in vain.
    by_cases hik : i = k
    · subst hik
      exact OnWay.proceed hslot hholds hfree c
    · obtain ⟨hsame, hserved⟩ := step_vain d source c (hfree i hik) (by simp [hslot])
      rw [hsame, hserved]
      exact .held k hslot hholds hfree
  | finished hslot hfree =>
    obtain ⟨hsame, hserved⟩ := step_vain d source c (hfree i) (by simp [hslot])
    rw [hsame, hserved]
    exact .finished hslot hfree

end System

end Inspector
