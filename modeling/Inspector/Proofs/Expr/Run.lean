import Inspector.Expr.Evaluate
import Inspector.Proofs.Dialogue

/-!
How the evaluation of one node goes: for binary nodes and for calls, each way in which a run can
end is a case, with the runs of the operands that came before it.
-/

namespace Inspector

variable {σ : Type}

namespace LiveCall

inductive Fails (host : Host σ) (c : LiveCall) : σ → EvalError → σ → Prop where
  | refused (hrequest : host (.request c) s = some (.error err, s')) : Fails host c s err s'
  | lost (hrequest : host (.request c) s = some (.ok h, s₁))
      (hwait : host (.wait h) s₁ = some (.error err, s')) : Fails host c s err s'
  | threw (hrequest : host (.request c) s = some (.ok h, s₁))
      (hwait : host (.wait h) s₁ = some (.ok (.threw e), s'))
      : Fails host c s (.evalFault (.threw c.target e.type)) s'

inductive Returns (host : Host σ) (c : LiveCall) : σ → Value → σ → Prop where
  | returned (hrequest : host (.request c) s = some (.ok h, s₁))
      (hwait : host (.wait h) s₁ = some (.ok (.returned v), s')) : Returns host c s v s'

theorem run_evaluate_inv {host : Host σ} {c : LiveCall} {j j' : Journal} {s s' : σ}
    {r : Except EvalError Value} (hrun : Dialogue.run host c.evaluate j s = some (r, j', s'))
    : (∃ err, r = .error err ∧ j' = j.report err.message ∧ c.Fails host s err s')
        ∨ ∃ v, r = .ok v ∧ j' = j ∧ c.Returns host s v s' := by
  unfold evaluate at hrun
  obtain ⟨a, s₁, hrequest, hrun⟩ := Evaluation.run_bind_ask_inv hrun
  obtain ⟨err, rfl, rfl, rfl, rfl⟩ | ⟨h, rfl, hrun⟩ := Evaluation.run_bind_reporting_inv hrun
  · exact .inl ⟨err, rfl, rfl, .refused hrequest⟩
  obtain ⟨a, s₂, hwait, hrun⟩ := Evaluation.run_bind_ask_inv hrun
  obtain ⟨err, rfl, rfl, rfl, rfl⟩ | ⟨o, rfl, hrun⟩ := Evaluation.run_bind_reporting_inv hrun
  · exact .inl ⟨err, rfl, rfl, .lost hrequest hwait⟩
  cases o with
  | returned v =>
    obtain ⟨rfl, rfl, rfl⟩ := Evaluation.run_pure_inv hrun
    exact .inr ⟨v, rfl, rfl, .returned hrequest hwait⟩
  | threw e =>
    obtain ⟨rfl, rfl, rfl⟩ := Evaluation.run_fail_inv hrun
    exact .inl ⟨_, rfl, rfl, .threw hrequest hwait⟩

end LiveCall

namespace Expr

section

variable (host : Host σ) (source : Source)

inductive Operates : Expr → Journal → σ → Value → Value → Journal → σ → Prop where
  | intro (hleft : Dialogue.run host (left.evaluate source) j s = some (.ok v, j₁, s₁))
      (htest : op.shortCircuit v = .ok none)
      (hright : Dialogue.run host (right.evaluate source) j₁ s₁ = some (.ok w, j₂, s₂))
      : Operates (binary op left right (some b)) j s v w j₂ s₂

inductive Calls : Expr → Journal → σ → LiveCall → Journal → σ → Prop where
  | intro {type : TypeSignature} (hpermitted : host .permitted s = some (true, s₁))
      (hreceiver : Dialogue.run host (evaluateOption source target receiver) j s₁
        = some (.ok this, j₂, s₂))
      (hargs : Dialogue.run host (evaluateList source target 0 args) j₂ s₂
        = some (.ok values, j₃, s₃))
      : Calls (call target receiver args type true) j s ⟨target, this, values⟩ j₃ s₃

inductive BinaryRun (op : Operator) (left right : Expr) (b : Binding) (j : Journal) (s : σ)
    : Except EvalError Value → Journal → σ → Prop where
  | firstFailed (hleft : Dialogue.run host (left.evaluate source) j s = some (.error err, j₁, s'))
      : BinaryRun op left right b j s (.error err) (j₁.report Position.first.failure) s'
  | undecided (hleft : Dialogue.run host (left.evaluate source) j s = some (.ok v, j', s'))
      (htest : op.shortCircuit v = .error err) : BinaryRun op left right b j s (.error err) j' s'
  | settled (hleft : Dialogue.run host (left.evaluate source) j s = some (.ok v, j', s'))
      (htest : op.shortCircuit v = .ok (some d))
      : BinaryRun op left right b j s (.ok (.bool d)) j' s'
  | secondFailed (hleft : Dialogue.run host (left.evaluate source) j s = some (.ok v, j₁, s₁))
      (htest : op.shortCircuit v = .ok none)
      (hright : Dialogue.run host (right.evaluate source) j₁ s₁ = some (.error err, j₂, s'))
      : BinaryRun op left right b j s (.error err) (j₂.report Position.second.failure) s'
  | operated (hoperands : Operates host source (binary op left right (some b)) j s v w j₁ s₁)
      (hcompute : Dialogue.run host (op.evaluate b.computation v w) j₁ s₁ = some (r, j', s'))
      : BinaryRun op left right b j s r j' s'

inductive CallRun (target : String) (receiver : Option Expr) (args : List Expr)
    (type : TypeSignature) (j : Journal) (s : σ) : Except EvalError Value → Journal → σ → Prop where
  | disabled (hpermitted : host .permitted s = some (false, s'))
      : CallRun target receiver args type j s (.error (.notSupported (.callDisabled target)))
        (j.report (EvalError.notSupported (.callDisabled target)).message) s'
  | receiverFailed (hpermitted : host .permitted s = some (true, s₁)) (hmem : receiver = some e)
      (hrun : Dialogue.run host (e.evaluate source) j s₁ = some (.error err, j₂, s'))
      : CallRun target receiver args type j s (.error err)
        (j₂.report (Position.receiver target).failure) s'
  | argumentFailed (hpermitted : host .permitted s = some (true, s₁))
      (hreceiver : Dialogue.run host (evaluateOption source target receiver) j s₁
        = some (.ok this, j₂, s₂))
      (hmem : args = before ++ e :: after)
      (hbefore : Dialogue.run host (evaluateList source target 0 before) j₂ s₂
        = some (.ok values, j₃, s₃))
      (hrun : Dialogue.run host (e.evaluate source) j₃ s₃ = some (.error err, j₄, s'))
      : CallRun target receiver args type j s (.error err)
        (j₄.report (Position.argument before.length target).failure) s'
  | failed (hcall : Calls host source (call target receiver args type true) j s c j₁ s₁)
      (hfails : c.Fails host s₁ err s')
      : CallRun target receiver args type j s (.error err) (j₁.report err.message) s'
  | returned (hcall : Calls host source (call target receiver args type true) j s c j' s₁)
      (hreturns : c.Returns host s₁ v s') : CallRun target receiver args type j s (.ok v) j' s'

end

variable {host : Host σ} {source : Source} {j j' : Journal} {s s' : σ}

theorem binaryRun {op : Operator} {left right : Expr} {b : Binding} {r : Except EvalError Value}
    (hrun : Dialogue.run host ((binary op left right (some b)).evaluate source) j s
      = some (r, j', s'))
    : BinaryRun host source op left right b j s r j' s' := by
  unfold evaluate at hrun
  obtain ⟨err, j₁, rfl, rfl, hleft⟩ | ⟨v, j₁, s₁, hleft, hrun⟩ :=
    Evaluation.run_bind_orReport_inv hrun
  · exact .firstFailed hleft
  obtain ⟨err, htest, rfl, rfl, rfl⟩ | ⟨d, htest, hrun⟩ := Evaluation.run_bind_ofExcept_inv hrun
  · exact .undecided hleft htest
  cases d with
  | some d =>
    obtain ⟨rfl, rfl, rfl⟩ := Evaluation.run_pure_inv hrun
    exact .settled hleft htest
  | none =>
    obtain ⟨err, j₂, rfl, rfl, hright⟩ | ⟨w, j₂, s₂, hright, hrun⟩ :=
      Evaluation.run_bind_orReport_inv hrun
    · exact .secondFailed hleft htest hright
    · exact .operated ⟨hleft, htest, hright⟩ hrun

theorem run_evaluateOption_inv {target : String} {receiver : Option Expr}
    {r : Except EvalError (Option Value)}
    (hrun : Dialogue.run host (evaluateOption source target receiver) j s = some (r, j', s'))
    : (∃ this, r = .ok this)
        ∨ ∃ e err j₁, receiver = some e ∧ r = .error err
            ∧ j' = j₁.report (Position.receiver target).failure
            ∧ Dialogue.run host (e.evaluate source) j s = some (.error err, j₁, s') := by
  cases receiver with
  | none => exact .inl ⟨none, (Evaluation.run_pure_inv hrun).1⟩
  | some e =>
    unfold evaluateOption at hrun
    obtain ⟨err, j₁, rfl, rfl, he⟩ | ⟨v, j₁, s₁, he, hrun⟩ :=
      Evaluation.run_bind_orReport_inv hrun
    · exact .inr ⟨e, err, j₁, rfl, rfl, rfl, he⟩
    · exact .inl ⟨some v, (Evaluation.run_pure_inv hrun).1⟩

theorem run_evaluateList_cons {target : String} {index : Nat} {e : Expr} {es : List Expr}
    {v : Value} {values : List Value} {j₁ : Journal} {s₁ : σ}
    (he : Dialogue.run host (e.evaluate source) j s = some (.ok v, j₁, s₁))
    (hes : Dialogue.run host (evaluateList source target (index + 1) es) j₁ s₁
      = some (.ok values, j', s'))
    : Dialogue.run host (evaluateList source target index (e :: es)) j s
      = some (.ok (v :: values), j', s') := by
  unfold evaluateList
  rw [Evaluation.run_bind_ok (Evaluation.run_orReport_ok he), Evaluation.run_bind_ok hes]
  rfl

theorem run_evaluateList_inv {target : String} {index : Nat} {args : List Expr}
    {r : Except EvalError (List Value)}
    (hrun : Dialogue.run host (evaluateList source target index args) j s = some (r, j', s'))
    : (∃ values, r = .ok values)
        ∨ ∃ before e after values err j₁ s₁ j₂, args = before ++ e :: after ∧ r = .error err
            ∧ j' = j₂.report (Position.argument (index + before.length) target).failure
            ∧ Dialogue.run host (evaluateList source target index before) j s
                = some (.ok values, j₁, s₁)
            ∧ Dialogue.run host (e.evaluate source) j₁ s₁ = some (.error err, j₂, s') := by
  induction args generalizing index j s r with
  | nil => exact .inl ⟨[], (Evaluation.run_pure_inv hrun).1⟩
  | cons e es ih =>
    unfold evaluateList at hrun
    obtain ⟨err, j₁, rfl, rfl, he⟩ | ⟨v, j₁, s₁, he, hrun⟩ :=
      Evaluation.run_bind_orReport_inv hrun
    · exact .inr ⟨[], e, es, [], err, j, s, j₁, rfl, rfl, rfl, rfl, he⟩
    obtain ⟨err, rfl, hes⟩ | ⟨values, j₂, s₂, hes, hrun⟩ := Evaluation.run_bind_inv hrun
    -- Counted from the second argument on, the one that failed has an index that is one less.
    · obtain ⟨_, hok⟩ | ⟨before, n, after, values, err, j₂, s₂, j₃, rfl, herr, rfl, hbefore, hn⟩ :=
        ih hes
      · contradiction
      · refine .inr ⟨e :: before, n, after, v :: values, err, j₂, s₂, j₃, rfl, herr, ?_,
          run_evaluateList_cons he hbefore, hn⟩
        rw [List.length_cons, Nat.add_right_comm, Nat.add_assoc]
    · exact .inl ⟨v :: values, (Evaluation.run_pure_inv hrun).1⟩

theorem callRun {target : String} {receiver : Option Expr} {args : List Expr}
    {type : TypeSignature} {r : Except EvalError Value}
    (hrun : Dialogue.run host ((call target receiver args type true).evaluate source) j s
      = some (r, j', s'))
    : CallRun host source target receiver args type j s r j' s' := by
  unfold evaluate at hrun
  obtain ⟨permitted, s₁, hpermitted, hrun⟩ := Evaluation.run_bind_ask_inv hrun
  cases permitted with
  | false =>
    obtain ⟨rfl, rfl, rfl⟩ := Evaluation.run_fail_inv hrun
    exact .disabled hpermitted
  | true =>
    obtain ⟨err, rfl, hreceiver⟩ | ⟨this, j₂, s₂, hreceiver, hrun⟩ := Evaluation.run_bind_inv hrun
    · obtain ⟨_, hok⟩ | ⟨e, _, j₂, hmem, herr, rfl, he⟩ := run_evaluateOption_inv hreceiver
      · contradiction
      · cases herr
        exact .receiverFailed hpermitted hmem he
    obtain ⟨err, rfl, hargs⟩ | ⟨values, j₃, s₃, hargs, hrun⟩ := Evaluation.run_bind_inv hrun
    · obtain ⟨_, hok⟩ | ⟨before, e, after, values, _, j₃, s₃, j₄, hmem, herr, rfl, hbefore, he⟩ :=
        run_evaluateList_inv hargs
      · contradiction
      · cases herr
        rw [Nat.zero_add]
        exact .argumentFailed hpermitted hreceiver hmem hbefore he
    have hcall : Calls host source (call target receiver args type true) j s
        ⟨target, this, values⟩ j₃ s₃ := ⟨hpermitted, hreceiver, hargs⟩
    obtain ⟨err, rfl, rfl, hfails⟩ | ⟨v, rfl, rfl, hreturns⟩ := LiveCall.run_evaluate_inv hrun
    · exact .failed hcall hfails
    · exact .returned hcall hreturns

end Expr

end Inspector
