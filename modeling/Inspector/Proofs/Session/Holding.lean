import Inspector.Proofs.Session.Close
import Inspector.Proofs.Session.Refusal

/-!
Running evaluations. An evaluation whose call has been taken stays outstanding until its end is
published or the session is closed. An end that was published for somebody is kept for the first
who waits for it.
-/

namespace Inspector

namespace Session

def HeldBy (h : Handle) (s : Session) : Prop :=
  s.closed = true ∨ ∃ abandoned, s.slot = .awaiting h none abandoned

/--
Who waits for `h` now is told `r` at once, and nobody was told anything before; or the first who
waited was told `r`, and the session is done with `h`.
-/
def ToldFirst (h : Handle) (r : Except EvalError Outcome) (later : List Event) (s : Session) :
    Prop :=
  (answers later h = [] ∧ s.wait h = some (r, { s with slot := .idle })) ∨
    ∃ n, answers later h = r :: turnedAway h n ∧ s.Over h

variable {start s s' : Session} {log later : List Event} {e : Event} {h : Handle}

theorem heldBy_of_move (hmove : Move s e s') (hheld : s.HeldBy h)
    (hnone : ∀ delivery, e.effect? ≠ some (.accepted h delivery)) : s'.HeldBy h := by
  cases hmove with
  | issue call hidle hopen => simp [HeldBy, hopen, hidle] at hheld
  | handOut hslot heff =>
    obtain hclosed | ⟨abandoned, hheld⟩ := hheld
    · exact .inl hclosed
    · simp [hslot] at hheld
  | withdraw hslot =>
    obtain hclosed | ⟨abandoned, hheld⟩ := hheld
    · exact .inl hclosed
    · simp [hslot] at hheld
  | abandon hslot =>
    obtain hclosed | ⟨abandoned, hheld⟩ := hheld
    · exact .inl hclosed
    · have := hslot.symm.trans hheld
      simp only [Slot.awaiting.injEq] at this
      exact .inr ⟨true, by simp [this]⟩
  | accept delivery hslot | drop delivery hslot =>
    obtain hclosed | ⟨abandoned, hheld⟩ := hheld
    · exact .inl hclosed
    · cases hslot.symm.trans hheld
      exact absurd (Event.effect?_publish h delivery) (hnone delivery)
  | deliver hslot hwait =>
    obtain hclosed | ⟨abandoned, hheld⟩ := hheld
    · exact .inl hclosed
    · simp [hslot] at hheld
  | closeLive hslot hopen => exact .inl rfl
  | closeAbandoned hslot hopen => exact .inl rfl
  | closeQuiet hslot => exact .inl rfl
  | keep heff hslot hnext hclosed =>
    unfold HeldBy
    rw [hslot, hclosed]
    exact hheld

theorem free_of_handedOut {call : LiveCall} (hmove : Move s e s') (hquiet : s.Quiet)
    (heff : e.effect? = some (.handedOut h call))
    : (∀ other, ¬s.HeldBy other) ∧ s'.HeldBy h := by
  obtain ⟨abandoned, hslot, hslot'⟩ := slot_of_handedOut hmove heff
  constructor
  · intro other hheld
    obtain hclosed | ⟨abandoned', hheld⟩ := hheld
    · exact hquiet hclosed (by simp [hslot, Slot.state])
    · simp [hslot] at hheld
  · exact .inr ⟨abandoned, hslot'⟩

theorem heldBy_run (hrun : Run start log s) (hout : handedOut log h ≠ [])
    : accepted log h ≠ [] ∨ s.HeldBy h := by
  induction hrun with
  | start => exact absurd rfl hout
  | @step log s op _ ih =>
    have hmove := move op s
    rw [accepted_concat]
    cases heff : (event op s).effect?.bind (Effect.accepted? h) with
    | some delivery => exact .inl (by simp)
    | none =>
      have hnone : ∀ delivery, (event op s).effect? ≠ some (.accepted h delivery) := by
        intro delivery hacc
        simp [hacc, Effect.accepted?] at heff
      by_cases hbefore : handedOut log h = []
      · obtain ⟨call, hcall⟩ : ∃ call, (event op s).effect? = some (.handedOut h call) := by
          rw [handedOut_concat, hbefore, List.nil_append] at hout
          cases hnow : (event op s).effect?.bind (Effect.handedOut? h) with
          | none => simp [hnow] at hout
          | some call =>
            obtain ⟨effect, heffect, hcall⟩ := Option.bind_eq_some_iff.mp hnow
            rw [Effect.eq_of_handedOut? hcall] at heffect
            exact ⟨call, heffect⟩
        obtain ⟨abandoned, _, hslot⟩ := slot_of_handedOut hmove hcall
        exact .inr (.inr ⟨abandoned, hslot⟩)
      · obtain hacc | hheld := ih hbefore
        · exact .inl (by simp [hacc])
        · exact .inr (heldBy_of_move hmove hheld hnone)

theorem awaits_iff (hlog : Chronicle start log s) (hquiet : s.Quiet) (hrun : Run start log s)
    (hout : handedOut log h ≠ []) : s.Awaits h ↔ s.closed = false ∧ accepted log h = [] := by
  constructor
  · intro ⟨call, abandoned, hslot⟩
    have hagrees := hlog.slot
    rw [hslot] at hagrees
    exact ⟨hquiet.isOpen hslot, hagrees.awaiting.2.1⟩
  · intro ⟨hopen, hacc⟩
    obtain hsome | hclosed | ⟨abandoned, hslot⟩ := heldBy_run hrun hout
    · exact absurd hacc hsome
    · simp [hopen] at hclosed
    · exact ⟨none, abandoned, hslot⟩

theorem takePending_of_quiet (hquiet : s.Quiet)
    (hnone : s.takeRequest.1 = none) : s.takePending = (none, s) := by
  cases hclosed : s.closed with
  | true => exact takePending_of_settled (hquiet hclosed)
  | false =>
    have htake : s.takeRequest = s.takePending := by simp [takeRequest, hclosed]
    rw [htake] at hnone
    have hpending : s.takePending = (none, s.takePending.2) := Prod.ext hnone rfl
    rw [hpending, takePending_none hpending]

theorem kept_run {delivery : Delivery} (hrun : Run start later s)
    (hknown : h.id < start.nextHandle) (hslot : start.slot = .finished h delivery)
    : h.id < s.nextHandle ∧
        (answers later h = [] ∧ s.slot = .finished h delivery ∨
          ∃ n, answers later h = delivery.result :: turnedAway h n ∧ s.Over h) := by
  induction hrun with
  | start => exact ⟨hknown, .inl ⟨rfl, hslot⟩⟩
  | @step later s op _ ih =>
    obtain ⟨hknown, hfirst⟩ := ih
    have hmove := move op s
    refine ⟨known_of_move hmove hknown, ?_⟩
    rw [answers_concat]
    obtain ⟨hnone, hslot⟩ | ⟨n, htold, hover⟩ := hfirst
    · rw [hnone]
      obtain ⟨hanswer, hslot⟩ | ⟨hanswer, hidle⟩ := told_step hslot op
      · exact .inl ⟨by simp [hanswer], hslot⟩
      · -- The counter has not gone back, so that nobody else gets the handle `h`.
        refine .inr ⟨0, by simp [hanswer, turnedAway], known_of_move hmove hknown, ?_⟩
        simp [hidle, Slot.handle?]
    · obtain ⟨m, hanswer⟩ := answerFor?_of_ne hover.gone op
      refine .inr ⟨n + m, ?_, over_of_move hmove hover⟩
      rw [htold, hanswer, List.cons_append, turnedAway_append]

theorem toldFirst_run {delivery : Delivery} (hrun : Run start later s)
    (hknown : h.id < start.nextHandle) (hslot : start.slot = .finished h delivery)
    : ToldFirst h delivery.result later s := by
  obtain ⟨hnone, hslot⟩ | htold := (kept_run hrun hknown hslot).2
  · refine .inl ⟨hnone, ?_⟩
    unfold wait
    rw [poll_finished hslot]
  · exact .inr htold

end Session

end Inspector
