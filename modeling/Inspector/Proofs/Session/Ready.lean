import Inspector.Proofs.Session.Run

/-!
The signal of the inspecting side. It is a token of which a session holds at most one: a signal puts
it there if it is missing, and a wait that is answered takes it away. No other step looks at it or
changes it.
-/

namespace Inspector

namespace Session

def Op.isRendezvous : Op → Bool
  | signalReady | takeReady => true
  | _ => false

def withReady (ready : Bool) (s : Session) : Session := { s with ready }

theorem withReady_self (s : Session) : s.withReady s.ready = s := rfl

theorem lookReady_eq (s : Session)
    : s.lookReady = if s.ready || s.closed then some s.takeReady else none := by
  rcases s with ⟨slot, nextHandle, ready, propertyEvaluation, activeThread, closed, timeout⟩
  cases ready with
  | true => rfl
  | false => cases closed <;> rfl

section

variable (ready : Bool) (s : Session)

theorem request_withReady (call : LiveCall)
    : (s.withReady ready).request call
      = ((s.request call).1, (s.request call).2.withReady ready) := by
  unfold request withReady
  dsimp only
  split
  · rfl
  · split
    · rfl
    · split <;> rfl

theorem poll_withReady (h : Handle)
    : (s.withReady ready).poll h
      = (s.poll h).map fun r => (r.1, r.2.withReady ready) := by
  rcases s with ⟨slot, nextHandle, _, propertyEvaluation, activeThread, closed, timeout⟩
  unfold poll takeOutcome withReady
  cases slot with
  | idle => rfl
  | awaiting h' call abandoned =>
    dsimp only
    split
    · rfl
    · split <;> rfl
  | finished h' delivery =>
    dsimp only
    split <;> rfl

theorem expire_withReady (h : Handle)
    : (s.withReady ready).expire h = ((s.expire h).1, (s.expire h).2.withReady ready) := by
  have hpoll := poll_withReady ready s h
  rcases s with ⟨slot, nextHandle, _, propertyEvaluation, activeThread, closed, timeout⟩
  cases slot with
  | idle => rfl
  | awaiting h' call abandoned =>
    unfold expire withReady
    dsimp only
    split <;> rfl
  | finished h' delivery =>
    change (((withReady _ _).poll h).getD _) = _
    rw [hpoll]
    unfold expire poll
    dsimp only
    split <;> rfl

theorem takePending_withReady
    : (s.withReady ready).takePending
      = (s.takePending.1, s.takePending.2.withReady ready) := by
  rcases s with ⟨slot, nextHandle, _, propertyEvaluation, activeThread, closed, timeout⟩
  cases slot with
  | idle | finished => rfl
  | awaiting h call abandoned => cases call <;> rfl

theorem takeRequest_withReady
    : (s.withReady ready).takeRequest
      = (s.takeRequest.1, s.takeRequest.2.withReady ready) := by
  have hpending := takePending_withReady ready s
  unfold takeRequest
  rw [hpending]
  change (if s.closed then _ else _) = _
  split <;> rfl

theorem publish_withReady (h : Handle) (delivery : Delivery)
    : (s.withReady ready).publish h delivery
      = ((s.publish h delivery).1, (s.publish h delivery).2.withReady ready) := by
  rcases s with ⟨slot, nextHandle, _, propertyEvaluation, activeThread, closed, timeout⟩
  cases slot with
  | idle | finished => rfl
  | awaiting h' call abandoned =>
    unfold publish withReady
    dsimp only
    split
    · rfl
    · split <;> rfl

theorem close_withReady : (s.withReady ready).close = s.close.withReady ready := by
  rcases s with ⟨slot, nextHandle, _, propertyEvaluation, activeThread, closed, timeout⟩
  cases closed with
  | true => rfl
  | false => cases slot <;> rfl

end

theorem run_withReady {op : Op} (hop : op.isRendezvous = false) (ready : Bool) (s : Session)
    : op.run (s.withReady ready) = ((op.run s).1, (op.run s).2.withReady ready) := by
  cases op with
  | request call => apply request_withReady
  | poll h =>
    unfold Op.run
    dsimp only
    rw [poll_withReady]
    cases s.poll h <;> rfl
  | expire h => apply expire_withReady
  | takeRequest => apply takeRequest_withReady
  | takePending => apply takePending_withReady
  | publish h delivery => apply publish_withReady
  | close => exact congrArg _ (close_withReady ready s)
  | setPropertyEvaluation enabled => rfl
  | setActiveThread thread => rfl
  | signalReady | takeReady => contradiction

theorem ready_run {op : Op} (hop : op.isRendezvous = false) (s : Session)
    : (op.run s).2.ready = s.ready := by
  have hrun := run_withReady hop s.ready s
  rw [withReady_self] at hrun
  rw [hrun]
  rfl

def Signalled (log : List Event) : Prop :=
  ∃ before after, log = before ++ ⟨.signalReady, ()⟩ :: after ∧ ⟨.takeReady, true⟩ ∉ after

theorem not_signalled_nil : ¬Signalled [] := by
  rintro ⟨before, after, hlog, _⟩
  simp at hlog

theorem signalled_concat {log : List Event} {e : Event}
    : Signalled (log ++ [e]) ↔ e = ⟨.signalReady, ()⟩ ∨ e ≠ ⟨.takeReady, true⟩ ∧ Signalled log := by
  constructor
  · rintro ⟨before, after, hlog, hafter⟩
    obtain rfl | ⟨later, e', rfl⟩ := after.eq_nil_or_concat
    · exact .inl (List.append_inj_right' hlog rfl |> List.singleton_inj.mp)
    · rw [List.concat_eq_append] at hlog hafter
      rw [← List.cons_append, ← List.append_assoc] at hlog
      obtain ⟨rfl, he⟩ := List.append_inj' hlog rfl
      obtain rfl := List.singleton_inj.mp he
      rw [List.mem_append, not_or] at hafter
      refine .inr ⟨?_, before, later, rfl, hafter.1⟩
      rintro rfl
      exact hafter.2 (List.mem_singleton_self _)
  · rintro (rfl | ⟨he, before, after, rfl, hafter⟩)
    · exact ⟨log, [], rfl, List.not_mem_nil⟩
    · refine ⟨before, after ++ [e], List.append_assoc .., ?_⟩
      rw [List.mem_append, not_or]
      refine ⟨hafter, ?_⟩
      intro hmem
      exact he (List.mem_singleton.mp hmem).symm

theorem signalled_step {log : List Event} (op : Op) (s : Session)
    (hready : s.ready = true ↔ Signalled log)
    : (op.run s).2.ready = true ↔ Signalled (log ++ [event op s]) := by
  rw [signalled_concat, ← hready]
  cases hop : op.isRendezvous with
  | false =>
    -- The event is another one than those that count.
    rw [ready_run hop]
    cases op with
    | signalReady | takeReady => contradiction
    | _ => simp [event]
  | true =>
    cases op with
    | signalReady => simp [event, Op.run, signalReady]
    | takeReady => cases hs : s.ready <;> simp [event, Op.run, takeReady, hs]
    | _ => contradiction

variable {start s : Session} {log : List Event}

theorem signalled_run (hrun : Run start log s) (hstart : start.ready = false)
    : s.ready = true ↔ Signalled log := by
  induction hrun with
  | start => simp [hstart, not_signalled_nil]
  | step op _ ih => exact signalled_step op _ ih

theorem answered_run (hrun : Run start log s) (hstart : start.ready = false)
    {before after : List Event} {answer : Bool}
    (hlog : log = before ++ ⟨.takeReady, answer⟩ :: after)
    : answer = true ↔ Signalled before := by
  obtain ⟨mid, hmid, hanswer⟩ := hrun.split hlog
  rw [← signalled_run hmid hstart, hanswer]
  rfl

end Session

end Inspector
