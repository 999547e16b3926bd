import Inspector.Proofs.Session.Step

/-!
Runs of a session: any steps of any parties, one after the other. What every step keeps, every run
keeps.
-/

namespace Inspector

namespace Session

inductive Run (start : Session) : List Event → Session → Prop where
  | start : Run start [] start
  | step {log s} (op : Op) (hrun : Run start log s) : Run start (log ++ [event op s]) (op.run s).2

variable {start s : Session} {log later : List Event}

theorem Run.append {mid : Session} (hrun : Run start log mid) (hlater : Run mid later s)
    : Run start (log ++ later) s := by
  induction hlater with
  | start => simpa using hrun
  | step op _ ih =>
    rw [← List.append_assoc]
    exact .step op ih

theorem Run.single (op : Op) (s : Session) : Run s [event op s] (op.run s).2 := .step op .start

theorem Run.split {before after : List Event} {op : Op} {answer : op.Answer}
    (hrun : Run start log s) (hlog : log = before ++ ⟨op, answer⟩ :: after)
    : ∃ mid, Run start before mid ∧ answer = (op.run mid).1 := by
  induction hrun generalizing after with
  | start => simp at hlog
  | @step log mid last hrun ih =>
    obtain rfl | ⟨later, e, rfl⟩ := after.eq_nil_or_concat
    · obtain ⟨rfl, hlast⟩ := List.append_inj' hlog rfl
      obtain ⟨rfl, heq⟩ := Event.mk.inj (List.singleton_inj.mp hlast)
      exact ⟨mid, hrun, (eq_of_heq heq).symm⟩
    · rw [List.concat_eq_append, ← List.cons_append, ← List.append_assoc] at hlog
      exact ih (List.append_inj' hlog rfl).1

theorem Run.invariant {P : Session → Prop} (hrun : Run start log s) (hstart : P start)
    (hstep : ∀ s e s', Move s e s' → P s → P s') : P s := by
  induction hrun with
  | start => exact hstart
  | step op _ ih => exact hstep _ _ _ (move op _) ih

def Quiet (s : Session) : Prop := s.closed = true → s.slot.state ≠ .awaitingEval

variable {s' : Session} {e : Event}

theorem Quiet.isOpen (hquiet : s.Quiet) {h : Handle} {call : Option LiveCall} {abandoned : Bool}
    (hslot : s.slot = .awaiting h call abandoned) : s.closed = false := by
  rw [← Bool.not_eq_true]
  intro hclosed
  apply hquiet hclosed
  simp [hslot, Slot.state]

theorem quiet_of_move (hmove : Move s e s') (hquiet : s.Quiet)
    : s'.Quiet := by
  intro hclosed
  cases hmove with
  | issue call hidle hopen => simp [hopen] at hclosed
  | handOut hslot heff => simpa [hslot, Slot.state] using hquiet hclosed
  | withdraw hslot => simp [Slot.state]
  | abandon hslot => simpa [hslot, Slot.state] using hquiet hclosed
  | accept delivery hslot => simpa [hslot, Slot.state] using hquiet hclosed
  | drop delivery hslot => simp [Slot.state]
  | deliver hslot hwait => simp [Slot.state]
  | closeLive hslot hopen => simp [Slot.state]
  | closeAbandoned hslot hopen => simp [Slot.state]
  | closeQuiet hslot => exact hslot
  | keep heff hslot hnext hsame =>
    rw [hslot]
    apply hquiet
    rw [← hsame]
    exact hclosed

theorem quiet_run (hrun : Run start log s) (hopen : start.closed = false) : s.Quiet := by
  apply hrun.invariant
  · intro hclosed
    simp [hopen] at hclosed
  · intro s e s' hmove hquiet
    exact quiet_of_move hmove hquiet

theorem nextHandle_of_move (hmove : Move s e s') : s'.nextHandle ≤ s.nextHandle + 1 := by
  cases hmove with
  | issue => exact Nat.le_refl _
  | keep _ _ hnext =>
    rw [hnext]
    exact Nat.le_succ _
  | _ => exact Nat.le_succ _

theorem nextHandle_run (hrun : Run start log s) : s.nextHandle ≤ start.nextHandle + log.length := by
  induction hrun with
  | start => exact Nat.le_refl _
  | @step log s op _ ih =>
    have hstep := nextHandle_of_move (move op s)
    rw [List.length_append, List.length_singleton]
    omega

theorem activeThread_run (hrun : Run start log s) {thread : Thread}
    (hstart : start.activeThread = some thread) : ∃ thread, s.activeThread = some thread := by
  induction hrun with
  | start => exact ⟨thread, hstart⟩
  | @step log s op _ ih =>
    obtain ⟨thread, hthread⟩ := ih
    obtain hsame | hset := activeThread_step op s
    · exact ⟨thread, hsame.trans hthread⟩
    · exact hset

end Session

end Inspector
