import Inspector.Session

/-!
The steps of a session, as data: what any party does to it in one go, and what it is told.
A log is what was done and told during a run, oldest first.

Main statement: `move` says everything that one step can do to the slot of a session.
-/

namespace Inspector

def Slot.handle? : Slot → Option Handle
  | idle => none
  | awaiting h .. | finished h _ => some h

theorem Slot.eq_of_handle? {slot : Slot} {h : Handle} (hh : slot.handle? = some h)
    : (∃ call abandoned, slot = .awaiting h call abandoned) ∨
      ∃ delivery, slot = .finished h delivery := by
  cases slot with
  | idle => simp [handle?] at hh
  | awaiting h' call abandoned =>
    obtain rfl : h' = h := by simpa [handle?] using hh
    exact .inl ⟨call, abandoned, rfl⟩
  | finished h' delivery =>
    obtain rfl : h' = h := by simpa [handle?] using hh
    exact .inr ⟨delivery, rfl⟩

namespace Session

/-- `poll` and `expire` are the two steps of a wait, `takePending` ends a vain look for a call. -/
inductive Op where
  | request (call : LiveCall)
  | poll (h : Handle)
  | expire (h : Handle)
  | takeRequest
  | takePending
  | publish (h : Handle) (delivery : Delivery)
  | close
  | signalReady
  | takeReady
  | setPropertyEvaluation (enabled : Bool)
  | setActiveThread (thread : Thread)

namespace Op

abbrev Answer : Op → Type
  | request _ => Except EvalError Handle
  | poll _ => Option (Except EvalError Outcome)
  | expire _ => Except EvalError Outcome
  | takeRequest | takePending => Option (Handle × LiveCall)
  | publish .. => Except EvalError Unit
  | takeReady => Bool
  | close | signalReady | setPropertyEvaluation _ | setActiveThread _ => Unit

def run : (op : Op) → Session → op.Answer × Session
  | request call, s => s.request call
  | poll h, s =>
    match s.poll h with
    | some (r, s) => (some r, s)
    | none => (none, s)
  | expire h, s => s.expire h
  | takeRequest, s => s.takeRequest
  | takePending, s => s.takePending
  | publish h delivery, s => s.publish h delivery
  | close, s => ((), s.close)
  | signalReady, s => ((), s.signalReady)
  | takeReady, s => s.takeReady
  | setPropertyEvaluation enabled, s => ((), s.setPropertyEvaluation enabled)
  | setActiveThread thread, s => ((), s.setActiveThread thread)

def takes : Op → Bool
  | takeRequest | takePending => true
  | _ => false

def isServing : Op → Bool
  | takeRequest | takePending | publish .. => true
  | _ => false

end Op

structure Event where
  op : Op
  answer : op.Answer

/-- Whether the answer to a wait is an outcome, and not the news that there will be none. -/
def delivers (h : Handle) : Except EvalError Outcome → Bool
  | .ok _ => true
  | .error (.evalFault f) => f ≠ .timedOut h
  | .error _ => false

inductive Effect where
  | issued (h : Handle) (call : LiveCall)
  | handedOut (h : Handle) (call : LiveCall)
  | accepted (h : Handle) (delivery : Delivery)
  | delivered (h : Handle) (result : Except EvalError Outcome)

namespace Event

def waited? : Event → Option (Handle × Except EvalError Outcome)
  | ⟨.poll h, some r⟩ => some (h, r)
  | ⟨.expire h, r⟩ => some (h, r)
  | _ => none

def effect? : Event → Option Effect
  | ⟨.request call, .ok h⟩ => some (.issued h call)
  | ⟨.takeRequest, some (h, call)⟩ => some (.handedOut h call)
  | ⟨.takePending, some (h, call)⟩ => some (.handedOut h call)
  | ⟨.publish h delivery, .ok ()⟩ => some (.accepted h delivery)
  | ⟨.poll h, some r⟩ => if delivers h r then some (.delivered h r) else none
  | ⟨.expire h, r⟩ => if delivers h r then some (.delivered h r) else none
  | _ => none

end Event

@[simp]
theorem Event.effect?_request (call : LiveCall) (h : Handle)
    : effect? ⟨.request call, .ok h⟩ = some (.issued h call) := rfl

@[simp]
theorem Event.effect?_publish (h : Handle) (delivery : Delivery)
    : effect? ⟨.publish h delivery, .ok ()⟩ = some (.accepted h delivery) := rfl

@[simp]
theorem Event.effect?_timedOut (h : Handle)
    : effect? ⟨.expire h, .error (.evalFault (.timedOut h))⟩ = none := by
  simp [effect?, delivers]

@[simp]
theorem Event.effect?_close : effect? ⟨.close, ()⟩ = none := rfl

theorem Event.effect?_of_waited {e : Event} {h : Handle} {r : Except EvalError Outcome}
    (hwait : e.waited? = some (h, r))
    : e.effect? = if delivers h r then some (.delivered h r) else none := by
  rcases e with ⟨op, answer⟩
  cases op with
  | poll h' =>
    cases answer with
    | none => simp [waited?] at hwait
    | some r' =>
      simp only [waited?, Option.some.injEq, Prod.mk.injEq] at hwait
      obtain ⟨rfl, rfl⟩ := hwait
      rfl
  | expire h' =>
    simp only [waited?, Option.some.injEq, Prod.mk.injEq] at hwait
    obtain ⟨rfl, rfl⟩ := hwait
    rfl
  | _ => simp [waited?] at hwait

theorem Event.op_of_waited {e : Event} {h : Handle} {r : Except EvalError Outcome}
    (hwait : e.waited? = some (h, r)) : e.op = .poll h ∨ e.op = .expire h := by
  rcases e with ⟨op, answer⟩
  cases op with
  | poll h' =>
    cases answer with
    | none => simp [waited?] at hwait
    | some r' =>
      simp only [waited?, Option.some.injEq, Prod.mk.injEq] at hwait
      exact .inl (by rw [hwait.1])
  | expire h' =>
    simp only [waited?, Option.some.injEq, Prod.mk.injEq] at hwait
    exact .inr (by rw [hwait.1])
  | _ => simp [waited?] at hwait

def Effect.ComesFrom (op : Op) : Effect → Prop
  | issued _ call => op = .request call
  | handedOut .. => op.takes = true
  | accepted h delivery => op = .publish h delivery
  | delivered h _ => op = .poll h ∨ op = .expire h

theorem Event.comesFrom {e : Event} {effect : Effect} (heff : e.effect? = some effect)
    : effect.ComesFrom e.op := by
  -- One case for each kind of step that has an effect.
  unfold effect? at heff
  split at heff
  · cases heff
    rfl
  · cases heff
    rfl
  · cases heff
    rfl
  · cases heff
    rfl
  · split at heff
    · cases heff
      exact .inl rfl
    · contradiction
  · split at heff
    · cases heff
      exact .inr rfl
    · contradiction
  · contradiction

def event (op : Op) (s : Session) : Event := ⟨op, (op.run s).1⟩

theorem effect?_ne_handedOut {op : Op} (htakes : op.takes = false) (s : Session) (h : Handle)
    (call : LiveCall) : (event op s).effect? ≠ some (.handedOut h call) := by
  intro heff
  have hop : op.takes = true := Event.comesFrom heff
  simp [htakes] at hop

inductive Move (s : Session) : Event → Session → Prop where
  | issue (call : LiveCall) (hidle : s.slot = .idle) (hopen : s.closed = false) :
    Move s ⟨.request call, .ok ⟨s.nextHandle⟩⟩
      { s with
        slot := .awaiting ⟨s.nextHandle⟩ (some call) false
        nextHandle := s.nextHandle + 1 }
  | handOut {h call abandoned e} (hslot : s.slot = .awaiting h (some call) abandoned)
    (heff : e.effect? = some (.handedOut h call)) :
    Move s e { s with slot := .awaiting h none abandoned }
  | withdraw {h call abandoned} (hslot : s.slot = .awaiting h (some call) abandoned) :
    Move s ⟨.expire h, .error (.evalFault (.timedOut h))⟩ { s with slot := .idle }
  | abandon {h abandoned} (hslot : s.slot = .awaiting h none abandoned) :
    Move s ⟨.expire h, .error (.evalFault (.timedOut h))⟩
      { s with slot := .awaiting h none true }
  | accept {h call} (delivery : Delivery) (hslot : s.slot = .awaiting h call false) :
    Move s ⟨.publish h delivery, .ok ()⟩ { s with slot := .finished h delivery }
  | drop {h call} (delivery : Delivery) (hslot : s.slot = .awaiting h call true) :
    Move s ⟨.publish h delivery, .ok ()⟩ { s with slot := .idle }
  | deliver {h delivery e} (hslot : s.slot = .finished h delivery)
    (hwait : e.waited? = some (h, delivery.result)) : Move s e { s with slot := .idle }
  | closeLive {h call} (hslot : s.slot = .awaiting h call false) (hopen : s.closed = false) :
    Move s ⟨.close, ()⟩ { s with closed := true, slot := .finished h (.fault .sessionClosed) }
  | closeAbandoned {h call} (hslot : s.slot = .awaiting h call true) (hopen : s.closed = false) :
    Move s ⟨.close, ()⟩ { s with closed := true, slot := .idle }
  | closeQuiet (hslot : s.slot.state ≠ .awaitingEval) :
    Move s ⟨.close, ()⟩ { s with closed := true }
  | keep {e s'} (heff : e.effect? = none) (hslot : s'.slot = s.slot)
    (hnext : s'.nextHandle = s.nextHandle) (hclosed : s'.closed = s.closed) : Move s e s'

variable {s : Session} {h : Handle}

theorem poll_of_ne (hne : s.slot.handle? ≠ some h)
    : s.poll h = some (.error (.invalidOperation (.notOutstanding h)), s) := by
  unfold poll
  cases hslot : s.slot with
  | idle => rfl
  | awaiting h' call abandoned =>
    rw [hslot] at hne
    have : h' ≠ h := by simpa [Slot.handle?] using hne
    simp [this]
  | finished h' delivery =>
    rw [hslot] at hne
    have : h' ≠ h := by simpa [Slot.handle?] using hne
    simp [this]

theorem poll_running {call} (hslot : s.slot = .awaiting h call false) : s.poll h = none := by
  unfold poll
  simp [hslot]

theorem poll_abandoned {call} (hslot : s.slot = .awaiting h call true)
    : s.poll h = some (.error (.evalFault (.timedOut h)), s) := by
  unfold poll
  simp [hslot]

theorem poll_finished {delivery} (hslot : s.slot = .finished h delivery)
    : s.poll h = some (delivery.result, { s with slot := .idle }) := by
  unfold poll takeOutcome
  simp [hslot]

theorem expire_of_ne (hne : s.slot.handle? ≠ some h)
    : s.expire h = (.error (.invalidOperation (.notOutstanding h)), s) := by
  have hpoll := poll_of_ne hne
  unfold expire
  split
  · next h' _ _ hslot =>
    rw [hslot] at hne
    have : h' ≠ h := by simpa [Slot.handle?] using hne
    simp [this]
  · rw [hpoll]
    rfl

theorem expire_pending {call abandoned} (hslot : s.slot = .awaiting h (some call) abandoned)
    : s.expire h = (.error (.evalFault (.timedOut h)), { s with slot := .idle }) := by
  unfold expire
  simp [hslot]

theorem expire_running {abandoned} (hslot : s.slot = .awaiting h none abandoned)
    : s.expire h
        = (.error (.evalFault (.timedOut h)), { s with slot := .awaiting h none true }) := by
  unfold expire
  simp [hslot]

theorem expire_finished {delivery} (hslot : s.slot = .finished h delivery)
    : s.expire h = (delivery.result, { s with slot := .idle }) := by
  have hpoll := poll_finished hslot
  unfold expire
  simp [hslot, hpoll]

theorem publish_of_ne (hne : s.slot.handle? ≠ some h) (delivery : Delivery)
    : s.publish h delivery = (.error (.invalidOperation (.notOutstanding h)), s) := by
  unfold publish
  split
  · next h' _ _ hslot =>
    rw [hslot] at hne
    have : h' ≠ h := by simpa [Slot.handle?] using hne
    simp [this]
  · rfl

theorem publish_running {call} (hslot : s.slot = .awaiting h call false) (delivery : Delivery)
    : s.publish h delivery = (.ok (), { s with slot := .finished h delivery }) := by
  unfold publish
  simp [hslot]

theorem publish_abandoned {call} (hslot : s.slot = .awaiting h call true) (delivery : Delivery)
    : s.publish h delivery = (.ok (), { s with slot := .idle }) := by
  unfold publish
  simp [hslot]

theorem publish_finished {delivery} (hslot : s.slot = .finished h delivery) (late : Delivery)
    : s.publish h late = (.error (.invalidOperation (.notOutstanding h)), s) := by
  unfold publish
  simp [hslot]

theorem request_busy (hslot : s.slot ≠ .idle) (call : LiveCall)
    : ∃ e, s.request call = (.error e, s) ∧
        (s.closed = false → s.propertyEvaluation = true → e = .evalInProgress) := by
  unfold request
  split
  · next hclosed => exact ⟨_, rfl, by simp [hclosed]⟩
  · split
    · next hdisabled => exact ⟨_, rfl, by simp_all⟩
    · exact ⟨.evalInProgress, by simp, fun _ _ => rfl⟩

theorem takePending_of_ne (hne : ∀ h call abandoned, s.slot ≠ .awaiting h (some call) abandoned)
    : s.takePending = (none, s) := by
  unfold takePending
  split
  · next hslot => exact absurd hslot (hne _ _ _)
  · rfl

theorem move_request (call : LiveCall) (s : Session)
    : Move s ⟨.request call, (s.request call).1⟩ (s.request call).2 := by
  unfold Session.request
  split
  · exact .keep rfl rfl rfl rfl
  · next hopen =>
    split
    · exact .keep rfl rfl rfl rfl
    · split
      · exact .keep rfl rfl rfl rfl
      · next hidle =>
        apply Move.issue
        · simpa using hidle
        · simpa using hopen

theorem move_poll (h : Handle) (s : Session)
    : Move s (event (.poll h) s) ((Op.poll h).run s).2 := by
  unfold event
  simp only [Op.run]
  by_cases hh : s.slot.handle? = some h
  · obtain ⟨call, abandoned, hslot⟩ | ⟨delivery, hslot⟩ := Slot.eq_of_handle? hh
    · cases abandoned with
      | false =>
        rw [poll_running hslot]
        exact .keep rfl rfl rfl rfl
      | true =>
        rw [poll_abandoned hslot]
        exact .keep (by simp [Event.effect?, delivers]) rfl rfl rfl
    · rw [poll_finished hslot]
      exact .deliver hslot rfl
  · rw [poll_of_ne hh]
    exact .keep rfl rfl rfl rfl

theorem move_expire (h : Handle) (s : Session)
    : Move s ⟨.expire h, (s.expire h).1⟩ (s.expire h).2 := by
  by_cases hh : s.slot.handle? = some h
  · obtain ⟨call, abandoned, hslot⟩ | ⟨delivery, hslot⟩ := Slot.eq_of_handle? hh
    · cases call with
      | some call =>
        rw [expire_pending hslot]
        exact .withdraw hslot
      | none =>
        rw [expire_running hslot]
        exact .abandon hslot
    · rw [expire_finished hslot]
      exact .deliver hslot rfl
  · rw [expire_of_ne hh]
    exact .keep rfl rfl rfl rfl

theorem move_publish (h : Handle) (delivery : Delivery) (s : Session)
    : Move s ⟨.publish h delivery, (s.publish h delivery).1⟩ (s.publish h delivery).2 := by
  by_cases hh : s.slot.handle? = some h
  · obtain ⟨call, abandoned, hslot⟩ | ⟨early, hslot⟩ := Slot.eq_of_handle? hh
    · cases abandoned with
      | false =>
        rw [publish_running hslot]
        exact .accept delivery hslot
      | true =>
        rw [publish_abandoned hslot]
        exact .drop delivery hslot
    · rw [publish_finished hslot]
      exact .keep rfl rfl rfl rfl
  · rw [publish_of_ne hh]
    exact .keep rfl rfl rfl rfl

theorem move_takePending (s : Session)
    : Move s ⟨.takePending, s.takePending.1⟩ s.takePending.2 := by
  unfold takePending
  split
  · next hslot => exact .handOut hslot rfl
  · exact .keep rfl rfl rfl rfl

theorem move_takeRequest (s : Session)
    : Move s ⟨.takeRequest, s.takeRequest.1⟩ s.takeRequest.2 := by
  unfold takeRequest
  split
  · exact .keep rfl rfl rfl rfl
  · unfold takePending
    split
    · next hslot => exact .handOut hslot rfl
    · exact .keep rfl rfl rfl rfl

theorem move_close (s : Session) : Move s ⟨.close, ()⟩ s.close := by
  unfold close
  split
  · exact .keep rfl rfl rfl rfl
  · next hopen =>
    have hopen : s.closed = false := by simpa using hopen
    split
    · next h call abandoned hslot =>
      cases abandoned with
      | false => exact .closeLive hslot hopen
      | true => exact .closeAbandoned hslot hopen
    · next hslot =>
      apply Move.closeQuiet
      unfold Slot.state
      split <;> simp_all

theorem move (op : Op) (s : Session) : Move s (event op s) (op.run s).2 := by
  cases op with
  | request call => exact move_request call s
  | poll h => exact move_poll h s
  | expire h => exact move_expire h s
  | takeRequest => exact move_takeRequest s
  | takePending => exact move_takePending s
  | publish h delivery => exact move_publish h delivery s
  | close => exact move_close s
  | signalReady => exact .keep rfl rfl rfl rfl
  | takeReady => exact .keep rfl rfl rfl rfl
  | setPropertyEvaluation enabled => exact .keep rfl rfl rfl rfl
  | setActiveThread thread => exact .keep rfl rfl rfl rfl

theorem activeThread_step (op : Op) (s : Session)
    : (op.run s).2.activeThread = s.activeThread ∨
        ∃ thread, (op.run s).2.activeThread = some thread := by
  cases op with
  | setActiveThread thread => exact .inr ⟨thread, rfl⟩
  | signalReady | takeReady | setPropertyEvaluation => exact .inl rfl
  | request call => grind [Op.run, request]
  | poll h => grind [Op.run, poll, takeOutcome]
  | expire h => grind [Op.run, expire, poll, takeOutcome]
  | takeRequest => grind [Op.run, takeRequest, takePending]
  | takePending => grind [Op.run, takePending]
  | publish h delivery => grind [Op.run, publish]
  | close => grind [Op.run, close]

variable {s' : Session} {e : Event}

theorem slot_of_handedOut {call : LiveCall} (hmove : Move s e s')
    (heff : e.effect? = some (.handedOut h call))
    : ∃ abandoned, s.slot = .awaiting h (some call) abandoned ∧
        s'.slot = .awaiting h none abandoned := by
  -- The events of the other moves are concrete, and none of them hands anything out.
  cases hmove
  case handOut abandoned hslot heff' =>
    rw [heff'] at heff
    simp only [Option.some.injEq, Effect.handedOut.injEq] at heff
    obtain ⟨rfl, rfl⟩ := heff
    exact ⟨abandoned, hslot, rfl⟩
  case deliver hslot hwait =>
    rw [Event.effect?_of_waited hwait] at heff
    split at heff <;> simp at heff
  case keep heff' _ _ _ => simp [heff'] at heff
  all_goals simp at heff

theorem slot_of_delivered {r : Except EvalError Outcome} (hmove : Move s e s')
    (heff : e.effect? = some (.delivered h r)) : ∃ delivery, s.slot = .finished h delivery := by
  cases hmove
  case handOut heff' => simp [heff'] at heff
  case deliver delivery hslot hwait =>
    rw [Event.effect?_of_waited hwait] at heff
    split at heff
    · simp only [Option.some.injEq, Effect.delivered.injEq] at heff
      obtain ⟨rfl, _⟩ := heff
      exact ⟨delivery, hslot⟩
    · simp at heff
  case keep heff' _ _ _ => simp [heff'] at heff
  all_goals simp at heff

end Session

end Inspector
