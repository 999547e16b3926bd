import Inspector.Proofs.Session.Timeout

/-!
Closing. On a closed session nothing can be asked for, taken or published, and nobody has to wait.
The outcome that the slot holds when the session closes is still there for the first who comes for
it.
-/

namespace Inspector

namespace Session

/-- Whether the party that takes a step finds nothing, and sleeps until another party moves. -/
def Op.Blocks : Op → Session → Prop
  | poll h, s => s.poll h = none
  | takeRequest, s => s.closed = false ∧ s.takeRequest.1 = none
  | takeReady, s => s.closed = false ∧ s.ready = false
  | _, _ => False

/-- A session on which nothing happens any more, except that a last outcome is told. -/
structure Shut (s : Session) : Prop where
  isClosed : s.closed = true
  request : ∀ call, s.request call = (.error (.evalFault .sessionClosed), s)
  takeRequest : s.takeRequest = (none, s)
  takePending : s.takePending = (none, s)
  publish : ∀ h, s.Refuses h
  close : s.close = s
  settled : s.slot.state ≠ .awaitingEval
  awake : ∀ op : Op, ¬op.Blocks s

def Event.answerFor? (h : Handle) (e : Event) : Option (Except EvalError Outcome) :=
  e.waited?.bind fun (h', r) => if h' = h then some r else none

def answers (log : List Event) (h : Handle) : List (Except EvalError Outcome) :=
  log.filterMap (Event.answerFor? h)

def turnedAway (h : Handle) (n : Nat) : List (Except EvalError Outcome) :=
  List.replicate n (.error (.invalidOperation (.notOutstanding h)))

def ToldOnce (h : Handle) (delivery : Delivery) (later : List Event) (s : Session) : Prop :=
  (answers later h = [] ∧ s.slot = .finished h delivery) ∨
    ∃ n, answers later h = delivery.result :: turnedAway h n ∧ s.slot = .idle

/-- A session that was closed as `given`, and that `later` has led on from there. -/
structure ClosedDown (given : Session) (later : List Event) (s : Session) : Prop where
  shut : s.Shut
  counter : s.nextHandle = given.nextHandle
  outstanding : ∀ h call, given.slot = .awaiting h call false →
    ToldOnce h (.fault .sessionClosed) later s
  abandoned : ∀ h call, given.slot = .awaiting h call true → s.slot = .idle
  published : ∀ h delivery, given.slot = .finished h delivery → ToldOnce h delivery later s
  others : ∀ h, given.close.slot.handle? ≠ some h → ∃ n, answers later h = turnedAway h n

variable {start s s' : Session} {log later : List Event} {e : Event} {h : Handle}

theorem handle?_of_settled (hsettled : s.slot.state ≠ .awaitingEval) (hh : s.slot.handle? = some h)
    : ∃ delivery, s.slot = .finished h delivery := by
  obtain ⟨call, abandoned, hslot⟩ | hfinished := Slot.eq_of_handle? hh
  · rw [hslot] at hsettled
    exact absurd rfl hsettled
  · exact hfinished

theorem settled_of_finished {delivery : Delivery} (hslot : s.slot = .finished h delivery)
    : s.slot.state ≠ .awaitingEval := by
  rw [hslot]
  unfold Slot.state
  split <;> simp_all

theorem takePending_of_settled (hsettled : s.slot.state ≠ .awaitingEval)
    : s.takePending = (none, s) := by
  apply takePending_of_ne
  intro h call abandoned hslot
  rw [hslot] at hsettled
  exact hsettled rfl

theorem refuses_of_settled (hsettled : s.slot.state ≠ .awaitingEval) (h : Handle)
    : s.Refuses h := by
  by_cases hh : s.slot.handle? = some h
  · obtain ⟨delivery, hslot⟩ := handle?_of_settled hsettled hh
    exact publish_finished hslot
  · exact publish_of_ne hh

theorem not_blocks_of_closed (hclosed : s.closed = true) (hsettled : s.slot.state ≠ .awaitingEval)
    (op : Op) : ¬op.Blocks s := by
  cases op with
  | poll h =>
    by_cases hh : s.slot.handle? = some h
    · obtain ⟨delivery, hslot⟩ := handle?_of_settled hsettled hh
      simp [Op.Blocks, poll_finished hslot]
    · simp [Op.Blocks, poll_of_ne hh]
  | takeRequest | takeReady => simp [Op.Blocks, hclosed]
  | _ => exact id

theorem shut_of_closed (hclosed : s.closed = true) (hsettled : s.slot.state ≠ .awaitingEval)
    : s.Shut where
  isClosed := hclosed
  request call := by
    unfold Session.request
    rw [if_pos hclosed]
  takeRequest := by
    unfold Session.takeRequest
    rw [if_pos hclosed]
  takePending := takePending_of_settled hsettled
  publish := refuses_of_settled hsettled
  close := by
    unfold Session.close
    rw [if_pos hclosed]
  settled := hsettled
  awake := not_blocks_of_closed hclosed hsettled

theorem closed_of_move (hmove : Move s e s') (hclosed : s.closed = true)
    (hsettled : s.slot.state ≠ .awaitingEval)
    : s'.closed = true ∧ s'.slot.state ≠ .awaitingEval ∧ s'.nextHandle = s.nextHandle := by
  have hquiet : s'.Quiet := by
    apply quiet_of_move hmove
    intro _
    exact hsettled
  suffices hsame : s'.closed = true ∧ s'.nextHandle = s.nextHandle by
    exact ⟨hsame.1, hquiet hsame.1, hsame.2⟩
  cases hmove with
  | issue call hidle hopen => simp [hopen] at hclosed
  | closeLive hslot hopen | closeAbandoned hslot hopen => exact ⟨rfl, rfl⟩
  | keep heff hslot hnext hsame => exact ⟨hsame.trans hclosed, hnext⟩
  | _ => exact ⟨by first | exact hclosed | rfl, rfl⟩

theorem slot_of_move (hmove : Move s e s') (hsettled : s.slot.state ≠ .awaitingEval)
    (hbusy : s.closed = true ∨ s.slot ≠ .idle)
    : s'.slot = s.slot ∨
        ∃ h delivery, s.slot = .finished h delivery ∧ e.waited? = some (h, delivery.result) ∧
          s'.slot = .idle := by
  cases hmove with
  | issue call hidle hopen => simp [hopen, hidle] at hbusy
  | deliver hslot hwait => exact .inr ⟨_, _, hslot, hwait, rfl⟩
  | closeQuiet hquiet => exact .inl rfl
  | keep heff hslot hnext hsame => exact .inl hslot
  | handOut hslot | withdraw hslot | abandon hslot | accept _ hslot | drop _ hslot
  | closeLive hslot | closeAbandoned hslot =>
    rw [hslot] at hsettled
    exact absurd rfl hsettled

theorem answers_concat (log : List Event) (e : Event) (h : Handle)
    : answers (log ++ [e]) h = answers log h ++ (e.answerFor? h).toList := by
  unfold answers
  rw [List.filterMap_append]
  cases hanswer : e.answerFor? h <;> simp [hanswer]

theorem waited_of_answerFor? {r : Except EvalError Outcome} (hanswer : e.answerFor? h = some r)
    : e.waited? = some (h, r) := by
  obtain ⟨⟨h', r'⟩, hwait, hr⟩ := Option.bind_eq_some_iff.mp hanswer
  dsimp only at hr
  split at hr
  · next heq =>
    rw [hwait, heq]
    simpa using hr
  · contradiction

theorem answerFor?_of_ne (hne : s.slot.handle? ≠ some h) (op : Op)
    : ∃ n, ((event op s).answerFor? h).toList = turnedAway h n := by
  cases hanswer : (event op s).answerFor? h with
  | none => exact ⟨0, rfl⟩
  | some r =>
    refine ⟨1, ?_⟩
    have hwait := waited_of_answerFor? hanswer
    obtain rfl | rfl : op = .poll h ∨ op = .expire h := Event.op_of_waited hwait
    · have hr : .error (.invalidOperation (.notOutstanding h)) = r := by
        simpa [event, Op.run, poll_of_ne hne, Event.waited?] using hwait
      rw [← hr]
      rfl
    · have hr : .error (.invalidOperation (.notOutstanding h)) = r := by
        simpa [event, Op.run, expire_of_ne hne, Event.waited?] using hwait
      rw [← hr]
      rfl

theorem answerFor?_of_finished {delivery : Delivery} (hslot : s.slot = .finished h delivery)
    (op : Op) {r : Except EvalError Outcome} (hanswer : (event op s).answerFor? h = some r)
    : r = delivery.result ∧ (op.run s).2.slot = .idle := by
  have hwait := waited_of_answerFor? hanswer
  obtain rfl | rfl : op = .poll h ∨ op = .expire h := Event.op_of_waited hwait
  · have hr : delivery.result = r := by
      simpa [event, Op.run, poll_finished hslot, Event.waited?] using hwait
    simp [Op.run, poll_finished hslot, hr]
  · have hr : delivery.result = r := by
      simpa [event, Op.run, expire_finished hslot, Event.waited?] using hwait
    simp [Op.run, expire_finished hslot, hr]

theorem told_step {delivery : Delivery} (hslot : s.slot = .finished h delivery) (op : Op)
    : (event op s).answerFor? h = none ∧ (op.run s).2.slot = .finished h delivery ∨
        (event op s).answerFor? h = some delivery.result ∧ (op.run s).2.slot = .idle := by
  cases hanswer : (event op s).answerFor? h with
  | none =>
    refine .inl ⟨rfl, ?_⟩
    obtain hsame | ⟨h', delivery', hslot', hwait, _⟩ :=
        slot_of_move (move op s) (settled_of_finished hslot) (.inr (by simp [hslot]))
    · rw [hsame, hslot]
    · rw [hslot] at hslot'
      cases hslot'
      simp [Event.answerFor?, hwait] at hanswer
  | some r =>
    obtain ⟨rfl, hidle⟩ := answerFor?_of_finished hslot op hanswer
    exact .inr ⟨rfl, hidle⟩

theorem turnedAway_append (h : Handle) (m n : Nat)
    : turnedAway h m ++ turnedAway h n = turnedAway h (m + n) := by
  apply List.replicate_append_replicate

theorem closed_run (hrun : Run start later s) (hclosed : start.closed = true)
    (hsettled : start.slot.state ≠ .awaitingEval)
    : s.closed = true ∧ s.slot.state ≠ .awaitingEval ∧ s.nextHandle = start.nextHandle := by
  apply hrun.invariant (P := fun s =>
    s.closed = true ∧ s.slot.state ≠ .awaitingEval ∧ s.nextHandle = start.nextHandle)
  · exact ⟨hclosed, hsettled, rfl⟩
  · intro s e s' hmove ⟨hclosed, hsettled, hnext⟩
    rw [← hnext]
    exact closed_of_move hmove hclosed hsettled

theorem idle_step (hclosed : s.closed = true) (hslot : s.slot = .idle) (op : Op)
    : (op.run s).2.slot = .idle := by
  have hsettled : s.slot.state ≠ .awaitingEval := by simp [hslot, Slot.state]
  obtain hsame | ⟨_, _, _, _, hidle⟩ := slot_of_move (move op s) hsettled (.inl hclosed)
  · rw [hsame, hslot]
  · exact hidle

theorem idle_run (hrun : Run start later s) (hclosed : start.closed = true)
    (hslot : start.slot = .idle) : s.slot = .idle := by
  induction hrun with
  | start => exact hslot
  | step op hrun ih =>
    have hsettled : start.slot.state ≠ .awaitingEval := by simp [hslot, Slot.state]
    exact idle_step (closed_run hrun hclosed hsettled).1 ih op

theorem told_run {delivery : Delivery} (hrun : Run start later s) (hclosed : start.closed = true)
    (hslot : start.slot = .finished h delivery) : ToldOnce h delivery later s := by
  induction hrun with
  | start => exact .inl ⟨rfl, hslot⟩
  | @step later s op hrun ih =>
    have hclosed := (closed_run hrun hclosed (settled_of_finished hslot)).1
    unfold ToldOnce
    rw [answers_concat]
    obtain ⟨hnone, hslot⟩ | ⟨n, htold, hidle⟩ := ih
    · obtain ⟨hanswer, hslot⟩ | ⟨hanswer, hidle⟩ := told_step hslot op
      · exact .inl ⟨by simp [hnone, hanswer], hslot⟩
      · exact .inr ⟨0, by simp [hnone, hanswer, turnedAway], hidle⟩
    · have hgone : s.slot.handle? ≠ some h := by simp [hidle, Slot.handle?]
      obtain ⟨m, hanswer⟩ := answerFor?_of_ne hgone op
      refine .inr ⟨n + m, ?_, idle_step hclosed hidle op⟩
      rw [htold, hanswer, List.cons_append, turnedAway_append]

theorem turnedAway_run (hrun : Run start later s) (hclosed : start.closed = true)
    (hsettled : start.slot.state ≠ .awaitingEval) (hgone : start.slot.handle? ≠ some h)
    : s.slot.handle? ≠ some h ∧ ∃ n, answers later h = turnedAway h n := by
  induction hrun with
  | start => exact ⟨hgone, 0, rfl⟩
  | @step later s op hrun ih =>
    obtain ⟨hgone, n, htold⟩ := ih
    have ⟨hclosed, hsettled, _⟩ := closed_run hrun hclosed hsettled
    obtain ⟨m, hanswer⟩ := answerFor?_of_ne hgone op
    constructor
    · obtain hsame | ⟨_, _, _, _, hidle⟩ := slot_of_move (move op s) hsettled (.inl hclosed)
      · rw [hsame]
        exact hgone
      · simp [hidle, Slot.handle?]
    · refine ⟨n + m, ?_⟩
      rw [answers_concat, htold, hanswer, turnedAway_append]

theorem closed_close (s : Session) : s.close.closed = true := by
  unfold close
  split
  · next hclosed => exact hclosed
  · split <;> rfl

theorem nextHandle_close (s : Session) : s.close.nextHandle = s.nextHandle := by
  unfold close
  split
  · rfl
  · split <;> rfl

theorem slot_close_live {call : Option LiveCall} (hslot : s.slot = .awaiting h call false)
    (hopen : s.closed = false) : s.close.slot = .finished h (.fault .sessionClosed) := by
  simp [close, hopen, hslot]

theorem slot_close_abandoned {call : Option LiveCall} (hslot : s.slot = .awaiting h call true)
    (hopen : s.closed = false) : s.close.slot = .idle := by
  simp [close, hopen, hslot]

theorem slot_close_finished {delivery : Delivery} (hslot : s.slot = .finished h delivery)
    : s.close.slot = .finished h delivery := by
  unfold close
  split
  · exact hslot
  · simp [hslot]

theorem closedDown_run (hquiet : start.Quiet) (hrun : Run start.close later s)
    : ClosedDown start later s := by
  have hclosed := closed_close start
  have hsettled : start.close.slot.state ≠ .awaitingEval := by
    have hquiet : start.close.Quiet := quiet_of_move (move_close start) hquiet
    exact hquiet hclosed
  have ⟨hclosed', hsettled', hnext⟩ := closed_run hrun hclosed hsettled
  constructor
  · exact shut_of_closed hclosed' hsettled'
  · rw [hnext, nextHandle_close]
  · intro h call hslot
    exact told_run hrun hclosed (slot_close_live hslot (hquiet.isOpen hslot))
  · intro h call hslot
    exact idle_run hrun hclosed (slot_close_abandoned hslot (hquiet.isOpen hslot))
  · intro h delivery hslot
    exact told_run hrun hclosed (slot_close_finished hslot)
  · intro h hgone
    exact (turnedAway_run hrun hclosed hsettled hgone).2

end Session

end Inspector
