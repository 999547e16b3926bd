import Inspector.Proofs.Session.Outcomes
import Inspector.Proofs.World

/-!
Refusals. A session refuses a step for a reason that can be read off the session, and a step that
was refused, or that found nothing, has left it as it was.
-/

namespace Inspector

theorem Delivery.result_ne_invalid (delivery : Delivery) (cause : Invalid)
    : delivery.result ≠ .error (.invalidOperation cause) := by
  cases delivery <;> simp [result]

namespace Session

/-- The reasons to turn down a request: of several, the first one is given. -/
inductive Denies (s : Session) : EvalError → Prop where
  | closed (hclosed : s.closed = true) : Denies s (.evalFault .sessionClosed)
  | disabled (hopen : s.closed = false) (hdisabled : s.propertyEvaluation = false)
      : Denies s (.notSupported .disabled)
  | busy (hopen : s.closed = false) (henabled : s.propertyEvaluation = true)
      (hbusy : s.slot ≠ .idle) : Denies s .evalInProgress

def Awaits (h : Handle) (s : Session) : Prop :=
  ∃ call abandoned, s.slot = .awaiting h call abandoned

def Op.handle? : Op → Option Handle
  | poll h | expire h | publish h _ => some h
  | _ => none

structure Strict (s : Session) : Prop where
  granted : ∀ call, (∃ h s', s.request call = (.ok h, s')) ↔ s.Accepts
  denied : ∀ call err s', s.request call = (.error err, s') ↔ s.Denies err ∧ s' = s
  published : ∀ h delivery, (∃ s', s.publish h delivery = (.ok (), s')) ↔ s.Awaits h
  unpublished : ∀ h delivery err s', s.publish h delivery = (.error err, s') ↔
    ¬s.Awaits h ∧ err = .invalidOperation (.notOutstanding h) ∧ s' = s
  poll : ∀ h cause s', s.poll h = some (.error (.invalidOperation cause), s') ↔
    s.slot.handle? ≠ some h ∧ cause = .notOutstanding h ∧ s' = s
  expire : ∀ h cause s', s.expire h = (.error (.invalidOperation cause), s') ↔
    s.slot.handle? ≠ some h ∧ cause = .notOutstanding h ∧ s' = s
  wait : ∀ h cause s', s.wait h = some (.error (.invalidOperation cause), s') ↔
    s.slot.handle? ≠ some h ∧ cause = .notOutstanding h ∧ s' = s
  late : ∀ h call, s.slot = .awaiting h call true →
    s.poll h = some (.error (.evalFault (.timedOut h)), s) ∧
      s.expire h = (.error (.evalFault (.timedOut h)), s)
  takeRequest : ∀ s', s.takeRequest = (none, s') → s' = s
  takePending : ∀ s', s.takePending = (none, s') → s' = s
  takeReady : ∀ s', s.takeReady = (false, s') → s' = s
  lookReady : ∀ s', s.lookReady = some (false, s') ↔
    s.ready = false ∧ s.closed = true ∧ s' = s
  stranger : ∀ (op : Op) (h : Handle), op.handle? = some h → s.slot.handle? ≠ some h →
    (op.run s).2 = s

variable {s s' : Session} {h : Handle} {err : EvalError} {cause : Invalid}

theorem request_denied (hdenies : s.Denies err) (call : LiveCall)
    : s.request call = (.error err, s) := by
  unfold request
  cases hdenies with
  | closed hclosed => rw [if_pos hclosed]
  | disabled hopen hdisabled => simp [hopen, hdisabled]
  | busy hopen henabled hbusy => simp [hopen, henabled, hbusy]

theorem accepts_or_denies (s : Session) : s.Accepts ∨ ∃ err, s.Denies err := by
  cases hclosed : s.closed with
  | true => exact .inr ⟨_, .closed hclosed⟩
  | false =>
    cases henabled : s.propertyEvaluation with
    | false => exact .inr ⟨_, .disabled hclosed henabled⟩
    | true =>
      by_cases hidle : s.slot = .idle
      · exact .inl ⟨hidle, hclosed, henabled⟩
      · exact .inr ⟨_, .busy hclosed henabled hidle⟩

theorem request_ok_iff (call : LiveCall)
    : (∃ h s', s.request call = (.ok h, s')) ↔ s.Accepts := by
  constructor
  · intro ⟨h, s', hrequest⟩
    obtain haccepts | ⟨err, hdenies⟩ := s.accepts_or_denies
    · exact haccepts
    · cases hrequest.symm.trans (request_denied hdenies call)
  · intro haccepts
    exact ⟨_, _, request_accepted haccepts call⟩

theorem request_error_iff (call : LiveCall)
    : s.request call = (.error err, s') ↔ s.Denies err ∧ s' = s := by
  constructor
  · intro hrequest
    obtain haccepts | ⟨err', hdenies⟩ := s.accepts_or_denies
    · cases hrequest.symm.trans (request_accepted haccepts call)
    · cases hrequest.symm.trans (request_denied hdenies call)
      exact ⟨hdenies, rfl⟩
  · rintro ⟨hdenies, rfl⟩
    exact request_denied hdenies call

theorem publish_awaited (hawaits : s.Awaits h) (delivery : Delivery)
    : ∃ s', s.publish h delivery = (.ok (), s') := by
  obtain ⟨call, abandoned, hslot⟩ := hawaits
  cases abandoned with
  | false => exact ⟨_, publish_running hslot delivery⟩
  | true => exact ⟨_, publish_abandoned hslot delivery⟩

theorem publish_refused (hnot : ¬s.Awaits h) (delivery : Delivery)
    : s.publish h delivery = (.error (.invalidOperation (.notOutstanding h)), s) := by
  by_cases hh : s.slot.handle? = some h
  · obtain hawaits | ⟨early, hslot⟩ := Slot.eq_of_handle? hh
    · exact absurd hawaits hnot
    · exact publish_finished hslot delivery
  · exact publish_of_ne hh delivery

theorem publish_ok_iff (delivery : Delivery)
    : (∃ s', s.publish h delivery = (.ok (), s')) ↔ s.Awaits h := by
  constructor
  · intro ⟨s', hpublish⟩
    by_cases hawaits : s.Awaits h
    · exact hawaits
    · cases hpublish.symm.trans (publish_refused hawaits delivery)
  · intro hawaits
    exact publish_awaited hawaits delivery

theorem publish_error_iff (delivery : Delivery)
    : s.publish h delivery = (.error err, s') ↔
        ¬s.Awaits h ∧ err = .invalidOperation (.notOutstanding h) ∧ s' = s := by
  constructor
  · intro hpublish
    by_cases hawaits : s.Awaits h
    · obtain ⟨s₁, hok⟩ := publish_awaited hawaits delivery
      cases hpublish.symm.trans hok
    · cases hpublish.symm.trans (publish_refused hawaits delivery)
      exact ⟨hawaits, rfl, rfl⟩
  · rintro ⟨hnot, rfl, rfl⟩
    exact publish_refused hnot delivery

theorem poll_invalid_iff
    : s.poll h = some (.error (.invalidOperation cause), s') ↔
        s.slot.handle? ≠ some h ∧ cause = .notOutstanding h ∧ s' = s := by
  constructor
  · intro hpoll
    by_cases hh : s.slot.handle? = some h
    · exfalso
      obtain ⟨call, abandoned, hslot⟩ | ⟨delivery, hslot⟩ := Slot.eq_of_handle? hh
      · cases abandoned with
        | false => cases hpoll.symm.trans (poll_running hslot)
        | true => cases hpoll.symm.trans (poll_abandoned hslot)
      · have heq := hpoll.symm.trans (poll_finished hslot)
        simp only [Option.some.injEq, Prod.mk.injEq] at heq
        exact delivery.result_ne_invalid cause heq.1.symm
    · cases hpoll.symm.trans (poll_of_ne hh)
      exact ⟨hh, rfl, rfl⟩
  · rintro ⟨hne, rfl, rfl⟩
    exact poll_of_ne hne

theorem expire_invalid_iff
    : s.expire h = (.error (.invalidOperation cause), s') ↔
        s.slot.handle? ≠ some h ∧ cause = .notOutstanding h ∧ s' = s := by
  constructor
  · intro hexpire
    by_cases hh : s.slot.handle? = some h
    · exfalso
      obtain ⟨call, abandoned, hslot⟩ | ⟨delivery, hslot⟩ := Slot.eq_of_handle? hh
      · cases call with
        | some call => cases hexpire.symm.trans (expire_pending hslot)
        | none => cases hexpire.symm.trans (expire_running hslot)
      · have heq := hexpire.symm.trans (expire_finished hslot)
        simp only [Prod.mk.injEq] at heq
        exact delivery.result_ne_invalid cause heq.1.symm
    · cases hexpire.symm.trans (expire_of_ne hh)
      exact ⟨hh, rfl, rfl⟩
  · rintro ⟨hne, rfl, rfl⟩
    exact expire_of_ne hne

theorem wait_invalid_iff
    : s.wait h = some (.error (.invalidOperation cause), s') ↔
        s.slot.handle? ≠ some h ∧ cause = .notOutstanding h ∧ s' = s := by
  unfold wait
  constructor
  · intro hwait
    split at hwait
    next r hpoll =>
      cases hwait
      exact poll_invalid_iff.mp hpoll
    next =>
      split at hwait
      · exact expire_invalid_iff.mp (Option.some.inj hwait)
      · contradiction
  · rintro ⟨hne, rfl, rfl⟩
    rw [poll_of_ne hne]

theorem takePending_none (htake : s.takePending = (none, s')) : s' = s := by
  unfold takePending at htake
  split at htake <;> cases htake
  rfl

theorem takeRequest_none (htake : s.takeRequest = (none, s')) : s' = s := by
  unfold takeRequest at htake
  split at htake
  · cases htake
    rfl
  · exact takePending_none htake

theorem takeReady_false (htake : s.takeReady = (false, s')) : s' = s := by
  obtain ⟨hready, rfl⟩ := Prod.mk.inj htake
  rw [← hready]

theorem lookReady_false
    : s.lookReady = some (false, s') ↔ s.ready = false ∧ s.closed = true ∧ s' = s := by
  unfold lookReady
  cases s.ready <;> cases s.closed <;> simp [eq_comm]

theorem run_stranger (op : Op) (hop : op.handle? = some h) (hne : s.slot.handle? ≠ some h)
    : (op.run s).2 = s := by
  cases op with
  | poll h' =>
    cases hop
    simp only [Op.run, poll_of_ne hne]
  | expire h' =>
    cases hop
    simp only [Op.run, expire_of_ne hne]
  | publish h' delivery =>
    cases hop
    simp only [Op.run, publish_of_ne hne]
  | _ => contradiction

theorem late_of_chronicle {start : Session} {log : List Event} {call : Option LiveCall}
    (hlog : Chronicle start log s) (hslot : s.slot = .awaiting h call true)
    : s.poll h = some (.error (.evalFault (.timedOut h)), s) ∧
        s.expire h = (.error (.evalFault (.timedOut h)), s) := by
  have hagrees := hlog.slot
  rw [hslot] at hagrees
  cases hagrees with
  | running =>
    refine ⟨poll_abandoned hslot, ?_⟩
    rw [expire_running hslot, ← hslot]

theorem strict_of_chronicle {start : Session} {log : List Event} (hlog : Chronicle start log s)
    : s.Strict where
  granted := request_ok_iff
  denied call _ _ := request_error_iff call
  published _ := publish_ok_iff
  unpublished _ delivery _ _ := publish_error_iff delivery
  poll _ _ _ := poll_invalid_iff
  expire _ _ _ := expire_invalid_iff
  wait _ _ _ := wait_invalid_iff
  late _ _ := late_of_chronicle hlog
  takeRequest _ := takeRequest_none
  takePending _ := takePending_none
  takeReady _ := takeReady_false
  lookReady _ := lookReady_false
  stranger op _ := run_stranger op

end Session

end Inspector
