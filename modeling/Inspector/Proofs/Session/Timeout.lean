import Inspector.Proofs.Session.Outcomes

/-!
Time-outs. A wait that gives up on a call that nobody has taken withdraws it. If the call has been
taken, the evaluation is abandoned: it keeps the slot until it is published or the session is
closed. Either way nobody is told its outcome any more.
-/

namespace Inspector

namespace Session

structure Over (h : Handle) (s : Session) : Prop where
  known : h.id < s.nextHandle
  gone : s.slot.handle? ≠ some h

structure Abandoned (h : Handle) (s : Session) : Prop where
  known : h.id < s.nextHandle
  slot : s.slot = .awaiting h none true
  isOpen : s.closed = false

variable {start s s' : Session} {log later : List Event} {e : Event} {h : Handle}

theorem known_of_move (hmove : Move s e s') (hknown : h.id < s.nextHandle)
    : h.id < s'.nextHandle := by
  cases hmove with
  | issue call hidle hopen => exact Nat.lt_succ_of_lt hknown
  | keep heff hslot hnext hclosed =>
    rw [hnext]
    exact hknown
  | _ => exact hknown

theorem over_of_move (hmove : Move s e s') (hover : s.Over h) : s'.Over h := by
  have ⟨hknown, hgone⟩ := hover
  refine ⟨known_of_move hmove hknown, ?_⟩
  cases hmove with
  | issue call hidle hopen =>
    intro heq
    simp only [Slot.handle?, Option.some.injEq] at heq
    rw [← heq] at hknown
    exact Nat.lt_irrefl _ hknown
  | handOut hslot heff => simpa [hslot, Slot.handle?] using hgone
  | withdraw hslot => simp [Slot.handle?]
  | abandon hslot => simpa [hslot, Slot.handle?] using hgone
  | accept delivery hslot => simpa [hslot, Slot.handle?] using hgone
  | drop delivery hslot => simp [Slot.handle?]
  | deliver hslot hwait => simp [Slot.handle?]
  | closeLive hslot hopen => simpa [hslot, Slot.handle?] using hgone
  | closeAbandoned hslot hopen => simp [Slot.handle?]
  | closeQuiet hquiet => exact hgone
  | keep heff hslot hnext hclosed =>
    rw [hslot]
    exact hgone

theorem over_run (hrun : Run start later s) (hover : start.Over h)
    : s.Over h ∧ handedOut later h = [] ∧ delivered later h = [] := by
  induction hrun with
  | start => exact ⟨hover, rfl, rfl⟩
  | @step later s op _ ih =>
    obtain ⟨ih, hout, hdel⟩ := ih
    have hmove := move op s
    -- Calls are handed out, and outcomes delivered, for the handle in the slot only.
    refine ⟨over_of_move hmove ih, ?_, ?_⟩
    · refine (effects_concat_of_ne _ _ _ ?_).trans hout
      intro effect call heff hcall
      rw [Effect.eq_of_handedOut? hcall] at heff
      obtain ⟨abandoned, hslot, _⟩ := slot_of_handedOut hmove heff
      apply ih.gone
      simp [hslot, Slot.handle?]
    · refine (effects_concat_of_ne _ _ _ ?_).trans hdel
      intro effect r heff hr
      rw [Effect.eq_of_delivered? hr] at heff
      obtain ⟨delivery, hslot⟩ := slot_of_delivered hmove heff
      apply ih.gone
      simp [hslot, Slot.handle?]

def Op.frees (h : Handle) : Op → Bool
  | close => true
  | publish h' _ => h' = h
  | _ => false

def Freed (h : Handle) (log : List Event) : Prop := log.any (·.op.frees h) = true

theorem Abandoned.handle? (hs : s.Abandoned h) : s.slot.handle? = some h := by
  simp [hs.slot, Slot.handle?]

theorem abandoned_keeps (hs : s.Abandoned h) (op : Op) (hop : op.frees h = false)
    : (op.run s).2.slot = s.slot ∧ (op.run s).2.closed = s.closed ∧
        (op.run s).2.nextHandle = s.nextHandle := by
  have hother : ∀ h', h' ≠ h → s.slot.handle? ≠ some h' := by
    intro h' hne heq
    rw [hs.handle?] at heq
    exact hne (Option.some.inj heq).symm
  have htake : s.takePending = (none, s) := by
    apply takePending_of_ne
    simp [hs.slot]
  cases op with
  | request call =>
    have hbusy : s.slot ≠ .idle := by simp [hs.slot]
    obtain ⟨e, hrequest, _⟩ := request_busy hbusy call
    simp [Op.run, hrequest]
  | poll h' =>
    by_cases heq : h' = h
    · subst heq
      simp [Op.run, poll_abandoned hs.slot]
    · simp [Op.run, poll_of_ne (hother h' heq)]
  | expire h' =>
    by_cases heq : h' = h
    · subst heq
      simp [Op.run, expire_running hs.slot, hs.slot]
    · simp [Op.run, expire_of_ne (hother h' heq)]
  | takeRequest => simp [Op.run, takeRequest, hs.isOpen, htake]
  | takePending => simp [Op.run, htake]
  | publish h' delivery =>
    have hne : h' ≠ h := by simpa [Op.frees] using hop
    simp [Op.run, publish_of_ne (hother h' hne)]
  | close => simp [Op.frees] at hop
  | signalReady => exact ⟨rfl, rfl, rfl⟩
  | takeReady => exact ⟨rfl, rfl, rfl⟩
  | setPropertyEvaluation enabled => exact ⟨rfl, rfl, rfl⟩
  | setActiveThread thread => exact ⟨rfl, rfl, rfl⟩

theorem abandoned_step (hs : s.Abandoned h) (op : Op) (hop : op.frees h = false)
    : (op.run s).2.Abandoned h := by
  have ⟨hslot, hclosed, hnext⟩ := abandoned_keeps hs op hop
  constructor
  · rw [hnext]
    exact hs.known
  · rw [hslot]
    exact hs.slot
  · rw [hclosed]
    exact hs.isOpen

theorem over_of_frees (hs : s.Abandoned h) (op : Op) (hop : op.frees h = true)
    : (op.run s).2.Over h := by
  cases op with
  | close =>
    have hclose : s.close = { s with closed := true, slot := .idle } := by
      simp [close, hs.isOpen, hs.slot]
    exact ⟨by simpa [Op.run, hclose] using hs.known, by simp [Op.run, hclose, Slot.handle?]⟩
  | publish h' delivery =>
    obtain rfl : h' = h := by simpa [Op.frees] using hop
    have hpublish := publish_abandoned hs.slot delivery
    exact ⟨by simpa [Op.run, hpublish] using hs.known, by simp [Op.run, hpublish, Slot.handle?]⟩
  | _ => simp [Op.frees] at hop

theorem freed_concat : Freed h (log ++ [e]) ↔ Freed h log ∨ e.op.frees h = true := by
  unfold Freed
  rw [List.any_append, Bool.or_eq_true, List.any_cons, List.any_nil, Bool.or_false]

theorem abandoned_run (hrun : Run start later s) (hstart : start.Abandoned h)
    : delivered later h = [] ∧ (¬Freed h later → s.Abandoned h) ∧ (Freed h later → s.Over h) := by
  induction hrun with
  | start => exact ⟨rfl, fun _ => hstart, by simp [Freed]⟩
  | @step later s op _ ih =>
    obtain ⟨hdel, hheld, hover⟩ := ih
    have hmove := move op s
    refine ⟨?_, ?_, ?_⟩
    · refine (effects_concat_of_ne _ _ _ ?_).trans hdel
      intro effect r heff hr
      rw [Effect.eq_of_delivered? hr] at heff
      obtain ⟨delivery, hslot⟩ := slot_of_delivered hmove heff
      by_cases hfreed : Freed h later
      · apply (hover hfreed).gone
        simp [hslot, Slot.handle?]
      · have := (hheld hfreed).slot
        simp [hslot] at this
    · intro hnot
      rw [freed_concat, not_or, Bool.not_eq_true] at hnot
      exact abandoned_step (hheld hnot.1) op hnot.2
    · intro hfreed
      rw [freed_concat] at hfreed
      by_cases hbefore : Freed h later
      · exact over_of_move hmove (hover hbefore)
      · have hnow := hfreed.resolve_left hbefore
        exact over_of_frees (hheld hbefore) op hnow

/-- A wait that finds `h` unfinished and comes back with the news that its time is up. -/
def GivesUp (h : Handle) (op : Op) (s : Session) : Prop :=
  (∃ call abandoned, s.slot = .awaiting h call abandoned) ∧
    (event op s).waited? = some (h, .error (.evalFault (.timedOut h)))

def lateAnswer (h : Handle) (s : Session) : EvalError :=
  if s.slot.handle? = some h then .evalFault (.timedOut h)
  else .invalidOperation (.notOutstanding h)

def Refuses (h : Handle) (s : Session) : Prop :=
  ∀ delivery, s.publish h delivery = (.error (.invalidOperation (.notOutstanding h)), s)

structure BusyWith (h : Handle) (s : Session) : Prop where
  request : ∀ call, ∃ e, s.request call = (.error e, s) ∧
    (s.closed = false → s.propertyEvaluation = true → e = .evalInProgress)
  takeRequest : s.takeRequest = (none, s)
  takePending : s.takePending = (none, s)
  publish : ∀ delivery, s.publish h delivery = (.ok (), { s with slot := .idle })

/--
What holds of a session when `h` has been given up: `log` led to that step, `given` was the session
after it, and `later` has led on from there to `s`.
-/
structure GivenUp (h : Handle) (log : List Event) (given : Session) (later : List Event)
    (s : Session) : Prop where
  silent : delivered later h = []
  poll : s.poll h = some (.error (s.lateAnswer h), s)
  expire : s.expire h = (.error (s.lateAnswer h), s)
  withdrawn : handedOut log h = [] → given.slot = .idle ∧ handedOut later h = [] ∧ s.Refuses h
  busy : handedOut log h ≠ [] → ¬Freed h later → s.BusyWith h
  freed : handedOut log h ≠ [] → Freed h later → s.Refuses h

theorem Over.refuses (hover : s.Over h) : s.Refuses h := publish_of_ne hover.gone

theorem Over.poll (hover : s.Over h) : s.poll h = some (.error (s.lateAnswer h), s) := by
  unfold lateAnswer
  rw [poll_of_ne hover.gone, if_neg hover.gone]

theorem Over.expire (hover : s.Over h) : s.expire h = (.error (s.lateAnswer h), s) := by
  unfold lateAnswer
  rw [expire_of_ne hover.gone, if_neg hover.gone]

theorem Abandoned.poll (hs : s.Abandoned h) : s.poll h = some (.error (s.lateAnswer h), s) := by
  unfold lateAnswer
  rw [poll_abandoned hs.slot, if_pos hs.handle?]

theorem Abandoned.expire (hs : s.Abandoned h) : s.expire h = (.error (s.lateAnswer h), s) := by
  unfold lateAnswer
  rw [expire_running hs.slot, if_pos hs.handle?, ← hs.slot]

theorem Abandoned.busyWith (hs : s.Abandoned h) : s.BusyWith h := by
  have htake : s.takePending = (none, s) := by
    apply takePending_of_ne
    simp [hs.slot]
  constructor
  · apply request_busy
    simp [hs.slot]
  · simp [takeRequest, hs.isOpen, htake]
  · exact htake
  · exact publish_abandoned hs.slot

theorem gaveUp {op : Op} (hlog : Chronicle start log s) (hquiet : s.Quiet) (hgive : s.GivesUp h op)
    : (handedOut log h = [] ∧ (op.run s).2.slot = .idle ∧ (op.run s).2.Over h) ∨
        (handedOut log h ≠ [] ∧ (op.run s).2.Abandoned h) := by
  obtain ⟨call, abandoned, hslot⟩ := hgive.1
  have hopen := hquiet.isOpen hslot
  have hagrees := hlog.slot
  rw [hslot] at hagrees
  have hop : op = .poll h ∨ op = .expire h := Event.op_of_waited hgive.2
  -- A wait that just looks goes on waiting, unless somebody has given up before it.
  have hpoll : abandoned = false → op ≠ .poll h := by
    intro hwaiting heq
    subst heq hwaiting
    have hwait := hgive.2
    simp [event, Op.run, poll_running hslot, Event.waited?] at hwait
  cases hagrees with
  | pending hissued hout hacc hdel =>
    obtain rfl := hop.resolve_left (hpoll rfl)
    refine .inl ⟨hout, ?_, ?_, ?_⟩
    · simp [Op.run, expire_pending hslot]
    · simpa [Op.run, expire_pending hslot] using hlog.known hissued
    · simp [Op.run, expire_pending hslot, Slot.handle?]
  | running hissued hout hacc hdel =>
    refine .inr ⟨by simp [hout], ?_⟩
    obtain rfl | rfl := hop
    · cases abandoned with
      | false => exact absurd rfl (hpoll rfl)
      | true =>
        have hrun : ((Op.poll h).run s).2 = s := by simp [Op.run, poll_abandoned hslot]
        rw [hrun]
        exact ⟨hlog.known hissued, hslot, hopen⟩
    · have hrun : ((Op.expire h).run s).2 = { s with slot := .awaiting h none true } := by
        simp [Op.run, expire_running hslot]
      rw [hrun]
      exact ⟨hlog.known hissued, rfl, hopen⟩

theorem givenUp_run {op : Op} (hlog : Chronicle start log s) (hquiet : s.Quiet)
    (hgive : s.GivesUp h op) {s' : Session} (hlater : Run (op.run s).2 later s')
    : GivenUp h log (op.run s).2 later s' := by
  obtain ⟨hnone, hidle, hover⟩ | ⟨hsome, habandoned⟩ := gaveUp hlog hquiet hgive
  · obtain ⟨hover, hout, hdel⟩ := over_run hlater hover
    exact ⟨hdel, hover.poll, hover.expire, fun _ => ⟨hidle, hout, hover.refuses⟩,
      fun hsome => absurd hnone hsome, fun hsome => absurd hnone hsome⟩
  · obtain ⟨hdel, hheld, hover⟩ := abandoned_run hlater habandoned
    by_cases hfreed : Freed h later
    · have hover := hover hfreed
      exact ⟨hdel, hover.poll, hover.expire, fun hnone => absurd hnone hsome,
        fun _ hnot => absurd hfreed hnot, fun _ _ => hover.refuses⟩
    · have hheld := hheld hfreed
      exact ⟨hdel, hheld.poll, hheld.expire, fun hnone => absurd hnone hsome,
        fun _ _ => hheld.busyWith, fun _ hnow => absurd hnow hfreed⟩

end Session

end Inspector
