import Inspector.Proofs.Session.Run

/-!
What the log of a run says about each evaluation. An evaluation has one call, which is handed out
once at most; one outcome is accepted for it at most, and delivered once at most. The slot is the
only evaluation to which something may still happen.
-/

namespace Inspector

namespace Session

namespace Effect

def issued? : Effect → Option (Handle × LiveCall)
  | issued h call => some (h, call)
  | _ => none

def handedOut? (h : Handle) : Effect → Option LiveCall
  | handedOut h' call => if h' = h then some call else none
  | _ => none

def accepted? (h : Handle) : Effect → Option Delivery
  | accepted h' delivery => if h' = h then some delivery else none
  | _ => none

def delivered? (h : Handle) : Effect → Option (Except EvalError Outcome)
  | delivered h' r => if h' = h then some r else none
  | _ => none

variable {h : Handle} {effect : Effect}

theorem eq_of_handedOut? {call : LiveCall} (heff : effect.handedOut? h = some call)
    : effect = .handedOut h call := by
  cases effect with
  | handedOut h' call' => simpa [handedOut?] using heff
  | _ => simp [handedOut?] at heff

theorem eq_of_delivered? {r : Except EvalError Outcome} (heff : effect.delivered? h = some r)
    : effect = .delivered h r := by
  cases effect with
  | delivered h' r' => simpa [delivered?] using heff
  | _ => simp [delivered?] at heff

end Effect

def effects (f : Effect → Option α) (log : List Event) : List α :=
  log.filterMap fun e => e.effect?.bind f

def issued (log : List Event) : List (Handle × LiveCall) := effects Effect.issued? log

def handedOut (log : List Event) (h : Handle) : List LiveCall := effects (Effect.handedOut? h) log

def accepted (log : List Event) (h : Handle) : List Delivery := effects (Effect.accepted? h) log

def delivered (log : List Event) (h : Handle) : List (Except EvalError Outcome) :=
  effects (Effect.delivered? h) log

section

variable (log : List Event) (e : Event) (h : Handle)

theorem effects_concat (f : Effect → Option α)
    : effects f (log ++ [e]) = effects f log ++ (e.effect?.bind f).toList := by
  unfold effects
  rw [List.filterMap_append]
  cases hf : e.effect?.bind f <;> simp [hf]

theorem effects_concat_of_ne (f : Effect → Option α)
    (hne : ∀ effect a, e.effect? = some effect → f effect ≠ some a)
    : effects f (log ++ [e]) = effects f log := by
  have hnone : e.effect?.bind f = none := by
    cases heff : e.effect? with
    | none => rfl
    | some effect => exact Option.eq_none_iff_forall_ne_some.mpr fun a => hne effect a heff
  rw [effects_concat, hnone]
  simp

theorem issued_concat
    : issued (log ++ [e]) = issued log ++ (e.effect?.bind Effect.issued?).toList := by
  apply effects_concat

theorem handedOut_concat
    : handedOut (log ++ [e]) h
        = handedOut log h ++ (e.effect?.bind (Effect.handedOut? h)).toList := by
  apply effects_concat

theorem accepted_concat
    : accepted (log ++ [e]) h
        = accepted log h ++ (e.effect?.bind (Effect.accepted? h)).toList := by
  apply effects_concat

theorem delivered_concat
    : delivered (log ++ [e]) h
        = delivered log h ++ (e.effect?.bind (Effect.delivered? h)).toList := by
  apply effects_concat

end

/-- Closing the session put an end to `h`, for which somebody was still to be told the outcome. -/
def CloseFaults (start : Session) (log : List Event) (h : Handle) : Prop :=
  ∃ before after s call, log = before ++ ⟨.close, ()⟩ :: after ∧ Run start before s ∧
    s.closed = false ∧ s.slot = .awaiting h call false

theorem CloseFaults.concat {start : Session} {log : List Event} {h : Handle} (e : Event)
    (hclose : CloseFaults start log h) : CloseFaults start (log ++ [e]) h := by
  obtain ⟨before, after, s, call, rfl, hrest⟩ := hclose
  refine ⟨before, after ++ [e], s, call, ?_, hrest⟩
  simp

def Explains (start : Session) (log : List Event) (h : Handle) (r : Except EvalError Outcome) :
    Prop :=
  (∃ delivery, accepted log h = [delivery] ∧ r = delivery.result) ∨
    accepted log h = [] ∧ CloseFaults start log h ∧ r = .error (.evalFault .sessionClosed)

def HandedOutOnce (log : List Event) (h : Handle) : Prop :=
  handedOut log h = [] ∨ ∃ call, (h, call) ∈ issued log ∧ handedOut log h = [call]

def AcceptedOnce (log : List Event) (h : Handle) : Prop :=
  accepted log h = [] ∨ ∃ call delivery, (h, call) ∈ issued log ∧ accepted log h = [delivery]

def DeliveredOnce (start : Session) (log : List Event) (h : Handle) : Prop :=
  delivered log h = [] ∨
    ∃ call r, (h, call) ∈ issued log ∧ delivered log h = [r] ∧ Explains start log h r

structure Once (start : Session) (log : List Event) (h : Handle) : Prop where
  handedOut : HandedOutOnce log h
  accepted : AcceptedOnce log h
  delivered : DeliveredOnce start log h

inductive Agrees (start : Session) (log : List Event) : Slot → Prop where
  | idle : Agrees start log .idle
  | pending {h call} (hissued : (h, call) ∈ issued log) (hout : handedOut log h = [])
    (hacc : accepted log h = []) (hdel : delivered log h = []) :
    Agrees start log (.awaiting h (some call) false)
  | running {h call abandoned} (hissued : (h, call) ∈ issued log) (hout : handedOut log h = [call])
    (hacc : accepted log h = []) (hdel : delivered log h = []) :
    Agrees start log (.awaiting h none abandoned)
  | published {h call delivery} (hissued : (h, call) ∈ issued log)
    (hacc : accepted log h = [delivery]) (hdel : delivered log h = []) :
    Agrees start log (.finished h delivery)
  | closed {h call} (hissued : (h, call) ∈ issued log) (hacc : accepted log h = [])
    (hdel : delivered log h = []) (hclose : CloseFaults start log h) :
    Agrees start log (.finished h (.fault .sessionClosed))

structure Chronicle (start : Session) (log : List Event) (s : Session) : Prop where
  ids : (issued log).map (·.1.id) = List.range' 1 (issued log).length
  next : s.nextHandle = (issued log).length + 1
  once : ∀ h, Once start log h
  slot : Agrees start log s.slot

variable {start s s' : Session} {log : List Event} {e : Event} {h : Handle}

theorem mem_issued_concat {p : Handle × LiveCall} (hp : p ∈ issued log)
    : p ∈ issued (log ++ [e]) := by
  rw [issued_concat]
  exact List.mem_append_left _ hp

theorem Explains.concat {r : Except EvalError Outcome} (hr : Explains start log h r)
    (hacc : accepted (log ++ [e]) h = accepted log h) : Explains start (log ++ [e]) h r := by
  unfold Explains
  rw [hacc]
  obtain hr | ⟨hnone, hclose, hr⟩ := hr
  · exact .inl hr
  · exact .inr ⟨hnone, hclose.concat e, hr⟩

theorem HandedOutOnce.concat (honce : HandedOutOnce log h)
    (hsame : handedOut (log ++ [e]) h = handedOut log h) : HandedOutOnce (log ++ [e]) h := by
  unfold HandedOutOnce
  rw [hsame]
  obtain hnil | ⟨call, hissued, hout⟩ := honce
  · exact .inl hnil
  · exact .inr ⟨call, mem_issued_concat hissued, hout⟩

theorem AcceptedOnce.concat (honce : AcceptedOnce log h)
    (hsame : accepted (log ++ [e]) h = accepted log h) : AcceptedOnce (log ++ [e]) h := by
  unfold AcceptedOnce
  rw [hsame]
  obtain hnil | ⟨call, delivery, hissued, hacc⟩ := honce
  · exact .inl hnil
  · exact .inr ⟨call, delivery, mem_issued_concat hissued, hacc⟩

theorem DeliveredOnce.concat (honce : DeliveredOnce start log h)
    (hacc : accepted (log ++ [e]) h = accepted log h)
    (hsame : delivered (log ++ [e]) h = delivered log h) : DeliveredOnce start (log ++ [e]) h := by
  unfold DeliveredOnce
  rw [hsame]
  obtain hnil | ⟨call, r, hissued, hdel, hexplains⟩ := honce
  · exact .inl hnil
  · exact .inr ⟨call, r, mem_issued_concat hissued, hdel, hexplains.concat hacc⟩

theorem Once.untouched (honce : Once start log h)
    (hout : Session.handedOut (log ++ [e]) h = Session.handedOut log h)
    (hacc : Session.accepted (log ++ [e]) h = Session.accepted log h)
    (hdel : Session.delivered (log ++ [e]) h = Session.delivered log h)
    : Once start (log ++ [e]) h where
  handedOut := honce.handedOut.concat hout
  accepted := honce.accepted.concat hacc
  delivered := honce.delivered.concat hacc hdel

theorem Once.of_none (honce : Once start log h) (heff : e.effect? = none)
    : Once start (log ++ [e]) h := by
  apply honce.untouched
  · simp [handedOut_concat, heff]
  · simp [accepted_concat, heff]
  · simp [delivered_concat, heff]

theorem Once.of_issued (honce : Once start log h) {h' call}
    (heff : e.effect? = some (.issued h' call)) : Once start (log ++ [e]) h := by
  apply honce.untouched
  · simp [handedOut_concat, heff, Effect.handedOut?]
  · simp [accepted_concat, heff, Effect.accepted?]
  · simp [delivered_concat, heff, Effect.delivered?]

theorem Once.of_handedOut (honce : Once start log h) {h' call}
    (heff : e.effect? = some (.handedOut h' call)) (hissued : (h', call) ∈ issued log)
    (hnone : Session.handedOut log h' = []) : Once start (log ++ [e]) h := by
  have hacc : Session.accepted (log ++ [e]) h = Session.accepted log h := by
    simp [accepted_concat, heff, Effect.accepted?]
  have hdel : Session.delivered (log ++ [e]) h = Session.delivered log h := by
    simp [delivered_concat, heff, Effect.delivered?]
  by_cases heq : h' = h
  · subst heq
    refine ⟨.inr ⟨call, mem_issued_concat hissued, ?_⟩, honce.accepted.concat hacc,
      honce.delivered.concat hacc hdel⟩
    simp [handedOut_concat, heff, Effect.handedOut?, hnone]
  · apply honce.untouched _ hacc hdel
    simp [handedOut_concat, heff, Effect.handedOut?, heq]

theorem Once.of_accepted (honce : Once start log h) {h' call delivery}
    (heff : e.effect? = some (.accepted h' delivery)) (hissued : (h', call) ∈ issued log)
    (hnone : Session.accepted log h' = []) (hwait : Session.delivered log h' = [])
    : Once start (log ++ [e]) h := by
  have hout : Session.handedOut (log ++ [e]) h = Session.handedOut log h := by
    simp [handedOut_concat, heff, Effect.handedOut?]
  have hdel : Session.delivered (log ++ [e]) h = Session.delivered log h := by
    simp [delivered_concat, heff, Effect.delivered?]
  by_cases heq : h' = h
  · subst heq
    refine ⟨honce.handedOut.concat hout, .inr ⟨call, delivery, mem_issued_concat hissued, ?_⟩,
      .inl (by rw [hdel, hwait])⟩
    simp [accepted_concat, heff, Effect.accepted?, hnone]
  · apply honce.untouched hout _ hdel
    simp [accepted_concat, heff, Effect.accepted?, heq]

theorem Once.of_delivered (honce : Once start log h) {h' call r}
    (heff : e.effect? = some (.delivered h' r)) (hissued : (h', call) ∈ issued log)
    (hnone : Session.delivered log h' = []) (hexplains : Explains start log h' r)
    : Once start (log ++ [e]) h := by
  have hout : Session.handedOut (log ++ [e]) h = Session.handedOut log h := by
    simp [handedOut_concat, heff, Effect.handedOut?]
  have hacc : Session.accepted (log ++ [e]) h = Session.accepted log h := by
    simp [accepted_concat, heff, Effect.accepted?]
  by_cases heq : h' = h
  · subst heq
    refine ⟨honce.handedOut.concat hout, honce.accepted.concat hacc,
      .inr ⟨call, r, mem_issued_concat hissued, ?_, hexplains.concat hacc⟩⟩
    simp [delivered_concat, heff, Effect.delivered?, hnone]
  · apply honce.untouched hout hacc
    simp [delivered_concat, heff, Effect.delivered?, heq]

theorem Agrees.of_none {slot : Slot} (hslot : Agrees start log slot) (heff : e.effect? = none)
    : Agrees start (log ++ [e]) slot := by
  have hout : ∀ h, handedOut (log ++ [e]) h = handedOut log h := by simp [handedOut_concat, heff]
  have hacc : ∀ h, accepted (log ++ [e]) h = accepted log h := by simp [accepted_concat, heff]
  have hdel : ∀ h, delivered (log ++ [e]) h = delivered log h := by simp [delivered_concat, heff]
  cases hslot with
  | idle => exact .idle
  | pending hissued hout' hacc' hdel' =>
    apply Agrees.pending (mem_issued_concat hissued)
    · rw [hout, hout']
    · rw [hacc, hacc']
    · rw [hdel, hdel']
  | running hissued hout' hacc' hdel' =>
    apply Agrees.running (mem_issued_concat hissued)
    · rw [hout, hout']
    · rw [hacc, hacc']
    · rw [hdel, hdel']
  | published hissued hacc' hdel' =>
    apply Agrees.published (mem_issued_concat hissued)
    · rw [hacc, hacc']
    · rw [hdel, hdel']
  | closed hissued hacc' hdel' hclose =>
    apply Agrees.closed (mem_issued_concat hissued) _ _ (hclose.concat e)
    · rw [hacc, hacc']
    · rw [hdel, hdel']

theorem Agrees.awaiting {call : Option LiveCall} {abandoned : Bool}
    (hslot : Agrees start log (.awaiting h call abandoned))
    : (∃ call, (h, call) ∈ issued log) ∧ accepted log h = [] ∧ delivered log h = [] := by
  cases hslot with
  | pending hissued hout hacc hdel => exact ⟨⟨_, hissued⟩, hacc, hdel⟩
  | running hissued hout hacc hdel => exact ⟨⟨_, hissued⟩, hacc, hdel⟩

theorem Agrees.finished {delivery : Delivery} (hslot : Agrees start log (.finished h delivery))
    : (∃ call, (h, call) ∈ issued log) ∧ delivered log h = [] ∧
      Explains start log h delivery.result := by
  cases hslot with
  | published hissued hacc hdel => exact ⟨⟨_, hissued⟩, hdel, .inl ⟨delivery, hacc, rfl⟩⟩
  | closed hissued hacc hdel hclose => exact ⟨⟨_, hissued⟩, hdel, .inr ⟨hacc, hclose, rfl⟩⟩

theorem Chronicle.extend (hlog : Chronicle start log s)
    (hissued : e.effect?.bind Effect.issued? = none) (hnext : s'.nextHandle = s.nextHandle)
    (honce : ∀ h, Once start (log ++ [e]) h) (hslot : Agrees start (log ++ [e]) s'.slot)
    : Chronicle start (log ++ [e]) s' := by
  have hsame : issued (log ++ [e]) = issued log := by simp [issued_concat, hissued]
  constructor
  · rw [hsame]
    exact hlog.ids
  · rw [hsame, hnext]
    exact hlog.next
  · exact honce
  · exact hslot

theorem Chronicle.known (hlog : Chronicle start log s) {call : LiveCall}
    (hissued : (h, call) ∈ issued log) : h.id < s.nextHandle := by
  have hid : h.id ∈ (issued log).map (·.1.id) := by
    rw [List.mem_map]
    exact ⟨_, hissued, rfl⟩
  rw [hlog.ids, List.mem_range'_1] at hid
  rw [hlog.next]
  omega

theorem Chronicle.fresh (hlog : Chronicle start log s) (call : LiveCall)
    : (⟨s.nextHandle⟩, call) ∉ issued log := by
  intro hissued
  exact Nat.lt_irrefl _ (hlog.known hissued)

theorem Chronicle.unknown (hlog : Chronicle start log s) (hnew : ∀ call, (h, call) ∉ issued log)
    : handedOut log h = [] ∧ accepted log h = [] ∧ delivered log h = [] := by
  have honce := hlog.once h
  refine ⟨?_, ?_, ?_⟩
  · obtain hnil | ⟨call, hissued, _⟩ := honce.handedOut
    · exact hnil
    · exact absurd hissued (hnew call)
  · obtain hnil | ⟨call, _, hissued, _⟩ := honce.accepted
    · exact hnil
    · exact absurd hissued (hnew call)
  · obtain hnil | ⟨call, _, hissued, _⟩ := honce.delivered
    · exact hnil
    · exact absurd hissued (hnew call)

theorem chronicle_start (hidle : start.slot = .idle) (hnext : start.nextHandle = 1)
    : Chronicle start [] start where
  ids := rfl
  next := hnext
  once h := ⟨.inl rfl, .inl rfl, .inl rfl⟩
  slot := by
    rw [hidle]
    exact .idle

theorem chronicle_issue (hlog : Chronicle start log s) (call : LiveCall)
    : Chronicle start (log ++ [⟨.request call, .ok ⟨s.nextHandle⟩⟩])
        { s with
          slot := .awaiting ⟨s.nextHandle⟩ (some call) false
          nextHandle := s.nextHandle + 1 } := by
  -- Nothing is on record for a handle that has not been given to anybody.
  have hnew := hlog.unknown hlog.fresh
  have hissued : issued (log ++ [⟨.request call, .ok ⟨s.nextHandle⟩⟩]) =
      issued log ++ [(⟨s.nextHandle⟩, call)] := by
    simp [issued_concat, Effect.issued?]
  constructor
  · rw [hissued, List.map_append, hlog.ids, List.length_append, List.length_singleton,
      List.range'_1_concat]
    simp [hlog.next, Nat.add_comm]
  · rw [hissued, List.length_append, List.length_singleton, hlog.next]
  · intro h
    exact (hlog.once h).of_issued (Event.effect?_request call ⟨s.nextHandle⟩)
  · apply Agrees.pending
    · simp [hissued]
    · simp [handedOut_concat, Effect.handedOut?, hnew]
    · simp [accepted_concat, Effect.accepted?, hnew]
    · simp [delivered_concat, Effect.delivered?, hnew]

theorem chronicle_handOut (hlog : Chronicle start log s) {call : LiveCall} {abandoned : Bool}
    (hslot : s.slot = .awaiting h (some call) abandoned)
    (heff : e.effect? = some (.handedOut h call))
    : Chronicle start (log ++ [e]) { s with slot := .awaiting h none abandoned } := by
  have hagrees := hlog.slot
  rw [hslot] at hagrees
  cases hagrees with
  | pending hissued hout hacc hdel =>
    apply hlog.extend
    · simp [heff, Effect.issued?]
    · rfl
    · intro h'
      exact (hlog.once h').of_handedOut heff hissued hout
    · apply Agrees.running (mem_issued_concat hissued)
      · simp [handedOut_concat, heff, Effect.handedOut?, hout]
      · simp [accepted_concat, heff, Effect.accepted?, hacc]
      · simp [delivered_concat, heff, Effect.delivered?, hdel]

theorem chronicle_silent (hlog : Chronicle start log s) (heff : e.effect? = none)
    (hnext : s'.nextHandle = s.nextHandle) (hslot : Agrees start (log ++ [e]) s'.slot)
    : Chronicle start (log ++ [e]) s' := by
  apply hlog.extend _ hnext _ hslot
  · simp [heff]
  · intro h
    exact (hlog.once h).of_none heff

theorem chronicle_abandon (hlog : Chronicle start log s) {abandoned : Bool}
    (hslot : s.slot = .awaiting h none abandoned) (heff : e.effect? = none)
    : Chronicle start (log ++ [e]) { s with slot := .awaiting h none true } := by
  have hagrees := hlog.slot.of_none heff
  rw [hslot] at hagrees
  refine chronicle_silent hlog heff rfl ?_
  cases hagrees with
  | running hissued hout hacc hdel => exact .running hissued hout hacc hdel

theorem chronicle_publish (hlog : Chronicle start log s) {call : Option LiveCall} {abandoned : Bool}
    (hslot : s.slot = .awaiting h call abandoned) (delivery : Delivery)
    (hnext : s'.nextHandle = s.nextHandle)
    (hfree : s'.slot = .idle ∨ s'.slot = .finished h delivery)
    : Chronicle start (log ++ [⟨.publish h delivery, .ok ()⟩]) s' := by
  have hagrees := hlog.slot
  rw [hslot] at hagrees
  have ⟨⟨call, hissued⟩, hacc, hdel⟩ := hagrees.awaiting
  apply hlog.extend
  · simp [Effect.issued?]
  · exact hnext
  · intro h'
    exact (hlog.once h').of_accepted (Event.effect?_publish h delivery) hissued hacc hdel
  · obtain hfree | hfree := hfree
    · rw [hfree]
      exact .idle
    · rw [hfree]
      apply Agrees.published (mem_issued_concat hissued)
      · simp [accepted_concat, Effect.accepted?, hacc]
      · simp [delivered_concat, Effect.delivered?, hdel]

theorem chronicle_deliver (hlog : Chronicle start log s) {delivery : Delivery}
    (hslot : s.slot = .finished h delivery) (hwait : e.waited? = some (h, delivery.result))
    : Chronicle start (log ++ [e]) { s with slot := .idle } := by
  have hagrees := hlog.slot
  rw [hslot] at hagrees
  have ⟨⟨call, hissued⟩, hdel, hexplains⟩ := hagrees.finished
  have heff := Event.effect?_of_waited hwait
  -- A published fault may look like a time-out, and then it is not counted as an outcome.
  split at heff
  · apply hlog.extend
    · simp [heff, Effect.issued?]
    · rfl
    · intro h'
      exact (hlog.once h').of_delivered heff hissued hdel hexplains
    · exact .idle
  · exact chronicle_silent hlog heff rfl .idle

theorem chronicle_closeLive (hrun : Run start log s) (hlog : Chronicle start log s)
    {call : Option LiveCall} (hslot : s.slot = .awaiting h call false) (hopen : s.closed = false)
    : Chronicle start (log ++ [⟨.close, ()⟩])
        { s with closed := true, slot := .finished h (.fault .sessionClosed) } := by
  have hagrees := hlog.slot
  rw [hslot] at hagrees
  have ⟨⟨_, hissued⟩, hacc, hdel⟩ := hagrees.awaiting
  refine chronicle_silent hlog Event.effect?_close rfl ?_
  -- The fault is explained by the run so far, at the end of which the session was closed.
  apply Agrees.closed (mem_issued_concat hissued)
  · simp [accepted_concat, hacc]
  · simp [delivered_concat, hdel]
  · exact ⟨log, [], s, call, rfl, hrun, hopen, hslot⟩

theorem chronicle_step (hrun : Run start log s) (hlog : Chronicle start log s) (hmove : Move s e s')
    : Chronicle start (log ++ [e]) s' := by
  cases hmove with
  | issue call hidle hopen => exact chronicle_issue hlog call
  | handOut hslot heff => exact chronicle_handOut hlog hslot heff
  | withdraw hslot => exact chronicle_silent hlog (Event.effect?_timedOut _) rfl .idle
  | abandon hslot => exact chronicle_abandon hlog hslot (Event.effect?_timedOut _)
  | accept delivery hslot => exact chronicle_publish hlog hslot delivery rfl (.inr rfl)
  | drop delivery hslot => exact chronicle_publish hlog hslot delivery rfl (.inl rfl)
  | deliver hslot hwait => exact chronicle_deliver hlog hslot hwait
  | closeLive hslot hopen => exact chronicle_closeLive hrun hlog hslot hopen
  | closeAbandoned hslot hopen => exact chronicle_silent hlog Event.effect?_close rfl .idle
  | closeQuiet hquiet =>
    refine chronicle_silent hlog Event.effect?_close rfl ?_
    exact hlog.slot.of_none Event.effect?_close
  | keep heff hslot hnext hclosed =>
    apply chronicle_silent hlog heff hnext
    rw [hslot]
    exact hlog.slot.of_none heff

theorem chronicle_run (hrun : Run start log s) (hidle : start.slot = .idle)
    (hnext : start.nextHandle = 1) : Chronicle start log s := by
  induction hrun with
  | start => exact chronicle_start hidle hnext
  | step op hrun ih => exact chronicle_step hrun ih (move op _)

end Session

end Inspector
