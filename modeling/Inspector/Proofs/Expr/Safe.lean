import Inspector.Proofs.Computation.Safe
import Inspector.Proofs.Expr.Sound
import Inspector.Proofs.Session.Refusal

/-!
Safety of compilation. Whatever values come into the evaluation of a compiled tree, its operators
give scalars of the kinds that were bound, and no operator is applied to what it is not made for.
-/

namespace Inspector

/-- A host asks a session about live calls: at any time, in any state, after any interference. -/
structure Host.AsksSession {σ : Type} (host : Host σ) : Prop where
  request : ∀ call s r s', host (.request call) s = some (r, s') →
    ∃ session : Session, r = (session.request call).1
  wait : ∀ h s r s', host (.wait h) s = some (r, s') →
    ∃ session session' : Session, session.poll h = some (r, session') ∨
      session.expire h = (r, session')

theorem Session.wait_inv {s s' : Session} {h : Handle} {r : Except EvalError Outcome}
    (hwait : s.wait h = some (r, s')) : s.poll h = some (r, s') ∨ s.expire h = (r, s') := by
  unfold wait at hwait
  split at hwait
  next hpoll =>
    cases hwait
    exact .inl hpoll
  next =>
    split at hwait
    · exact .inr (Option.some.inj hwait)
    · contradiction

theorem World.asksSession_host (d : Debuggee) (service : Service)
    : (host d service).AsksSession where
  request call w r w' hrequest := by
    cases hrequest
    exact ⟨w.session, rfl⟩
  wait h w r w' hwait := by
    simp only [host, wait] at hwait
    split at hwait
    next r session hsession =>
      cases hwait
      exact ⟨_, session, Session.wait_inv hsession⟩
    next => contradiction

theorem Delivery.isMisuse_result {delivery : Delivery} {err : EvalError}
    (herr : delivery.result = .error err) : err.isMisuse = false := by
  cases delivery with
  | outcome => contradiction
  | fault =>
    cases herr
    rfl

namespace Session

variable {s s' : Session} {h : Handle} {call : LiveCall} {err : EvalError}

theorem isMisuse_request (herr : (s.request call).1 = .error err) : err.isMisuse = false := by
  have hdenies : s.Denies err := ((request_error_iff call).mp (Prod.ext herr rfl)).1
  cases hdenies <;> rfl

theorem isMisuse_poll (hpoll : s.poll h = some (.error err, s')) : err.isMisuse = false := by
  by_cases hh : s.slot.handle? = some h
  · obtain ⟨call, abandoned, hslot⟩ | ⟨delivery, hslot⟩ := Slot.eq_of_handle? hh
    · cases abandoned with
      | false => cases hpoll.symm.trans (poll_running hslot)
      | true =>
        cases hpoll.symm.trans (poll_abandoned hslot)
        rfl
    · have heq := hpoll.symm.trans (poll_finished hslot)
      simp only [Option.some.injEq, Prod.mk.injEq] at heq
      exact Delivery.isMisuse_result heq.1.symm
  · cases hpoll.symm.trans (poll_of_ne hh)
    rfl

theorem isMisuse_expire (hexpire : s.expire h = (.error err, s')) : err.isMisuse = false := by
  by_cases hh : s.slot.handle? = some h
  · obtain ⟨call, abandoned, hslot⟩ | ⟨delivery, hslot⟩ := Slot.eq_of_handle? hh
    · cases call with
      | some call =>
        cases hexpire.symm.trans (expire_pending hslot)
        rfl
      | none =>
        cases hexpire.symm.trans (expire_running hslot)
        rfl
    · have heq := hexpire.symm.trans (expire_finished hslot)
      simp only [Prod.mk.injEq] at heq
      exact Delivery.isMisuse_result heq.1.symm
  · cases hexpire.symm.trans (expire_of_ne hh)
    rfl

end Session

variable {σ : Type} {host : Host σ} {s s' : σ} {err : EvalError}

theorem LiveCall.Fails.isMisuse {c : LiveCall} (hhost : host.AsksSession)
    (hfails : c.Fails host s err s') : err.isMisuse = false := by
  cases hfails with
  | refused hrequest =>
    obtain ⟨session, herr⟩ := hhost.request _ _ _ _ hrequest
    exact Session.isMisuse_request herr.symm
  | lost _ hwait =>
    obtain ⟨session, session', hpoll | hexpire⟩ := hhost.wait _ _ _ _ hwait
    · exact Session.isMisuse_poll hpoll
    · exact Session.isMisuse_expire hexpire
  | threw => rfl

namespace Expr

/-- Nothing that a node comes to in an evaluation is the tree's own fault. -/
structure SafeAt (host : Host σ) (source : Source) (n : Expr) (j : Journal) (s : σ) : Prop where
  value : ∀ op left right b v j' s', n = binary op left right b →
    Dialogue.run host (n.evaluate source) j s = some (.ok v, j', s') →
      ∃ p, v = .primitive p ∧ p.kind = n.type.kind
  error : ∀ err j' s', Dialogue.run host (n.evaluate source) j s = some (.error err, j', s') →
    err.isMisuse = true →
      ∃ path type j₁ s₁, Reaches host source n j s path (failing type err) j₁ s₁
  operator : ∀ op left right b, n = binary op left right (some b) →
    ∀ v w, op.SafeOn b.computation v w

variable {source : Source} {e n : Expr} {j j' : Journal}

theorem Bound.isMisuse_of_fails (hhost : host.AsksSession) (hbound : n.Bound)
    (hfails : Fails host source n j s err j' s') (herr : err.isMisuse = true)
    : ∃ type, n = .failing type err := by
  have hproper : err.isMisuse = false → ∃ type, n = .failing type err := by
    intro hproper
    rw [hproper] at herr
    contradiction
  cases hfails with
  | carried => exact ⟨_, rfl⟩
  | unbound => contradiction
  | uncompiled => contradiction
  | undecided _ htest =>
    exact hproper (Operator.failsAs_shortCircuit _ _ err htest).isMisuse
  | computation _ hcompute =>
    cases hbound with
    | binary _ _ hbind =>
      have hcomputes := (Operator.reads_evaluate _ _ _ _).of_run hcompute
      exact hproper ((hcomputes err rfl).isMisuse (Operator.binds_of_bind hbind).fits)
  | disabled => exact hproper rfl
  | called _ hfails => exact hproper (hfails.isMisuse hhost)

theorem Bound.safeAt (hhost : host.AsksSession) (hbound : n.Bound) (source : Source) (j : Journal)
    (s : σ) : SafeAt host source n j s where
  value op left right b v j' s' hn hrun := by
    subst hn
    exact kind_of_binary hbound hrun
  error err j' s' hrun herr := by
    obtain ⟨path, m, j₁, s₁, j₂, hreach, hfails, _⟩ := origin_of_error hrun
    obtain ⟨type, rfl⟩ := (hbound.reached hreach).isMisuse_of_fails hhost hfails herr
    exact ⟨path, type, j₁, s₁, hreach⟩
  operator op left right b hn v w := by
    subst hn
    cases hbound with
    | binary _ _ hbind => exact Operator.safeOn (Operator.binds_of_bind hbind).fits v w

theorem compile_safe (host : Host σ) (hhost : host.AsksSession) (source : Source) (ctx : Context)
    (sink : Sink) (e n : Expr) (j j₁ : Journal) (s s₁ : σ) (path : List Position)
    (hcompile : (e.compile ctx sink).result = .ok ())
    (hreach : Reaches host source (e.compile ctx sink).tree j s path n j₁ s₁)
    : SafeAt host source n j₁ s₁ :=
  ((bound_of_compile e hcompile).reached hreach).safeAt hhost source j₁ s₁

theorem compile_safe_lying
    : let d : Debuggee := .ofTables [] []
      let host := World.host d .bare
      let e : Expr := .apply .shl (.remote (.primitive (.int .i64 0x700000001)) (.of (.int .i32)))
        (.literal (.primitive (.int .u8 33)))
      let c := e.compile (fun _ => none) {}
      let w := World.new ⟨1⟩ {}
      host.AsksSession ∧ c.result = .ok () ∧ Reaches host .attached c.tree {} w [] c.tree {} w
        ∧ (∃ w', Dialogue.run host (c.tree.evaluate .attached) {} w
          = some (.ok (.primitive (.int .i32 2)), {}, w'))
        ∧ SafeAt host .attached c.tree {} w := by
  intro d host e c w
  have hhost : host.AsksSession := World.asksSession_host d .bare
  have hcompile : c.result = .ok () := rfl
  refine ⟨hhost, hcompile, .here, ⟨w, rfl⟩, ?_⟩
  exact compile_safe host hhost .attached _ _ e c.tree {} {} w w [] hcompile .here

end Expr

end Inspector
