import Inspector.Proofs.Computation.Errors
import Inspector.Proofs.Expr.Bound
import Inspector.World

/-!
The messages of an evaluation. One that succeeds leaves none. One that fails has got to just one
node that failed by itself: that node has the first word, if it is a call, and then there is a
message for each operand on the way back to the root.
-/

namespace Inspector

variable {α β σ : Type} {host : Host σ} {source : Source} {j j' j₁ j₂ : Journal} {s s' s₁ s₂ : σ}

namespace Evaluation

/-- Whatever goes well leaves no message. -/
def Quiet (host : Host σ) (x : Evaluation α) : Prop :=
  ∀ ⦃j s a j' s'⦄, Dialogue.run host x j s = some (.ok a, j', s') → j'.sink = j.sink

variable {x : Evaluation α} {f : α → Evaluation β}

theorem quiet_pure (a : α) : Quiet host (pure a : Evaluation α) := by
  intro j s a j' s' hrun
  obtain ⟨_, rfl, _⟩ := run_pure_inv hrun
  rfl

theorem quiet_of_reads {P : Except EvalError α → Prop} (hx : Dialogue.Reads P x)
    : Quiet host x := by
  intro j s a j' s' hrun
  rw [hx.journal_eq hrun]

theorem quiet_bind (hx : Quiet host x) (hf : ∀ a, Quiet host (f a))
    : Quiet host (x >>= f : Evaluation β) := by
  intro j s b j' s' hrun
  obtain ⟨err, herr, _⟩ | ⟨a, j₁, s₁, hrunx, hrunf⟩ := run_bind_inv hrun
  · contradiction
  · exact (hf a hrunf).trans (hx hrunx)

theorem quiet_orReport (hx : Quiet host x) (message : String)
    : Quiet host (x.orReport message) := by
  intro j s a j' s' hrun
  exact hx (run_orReport_ok_inv hrun)

end Evaluation

namespace LiveCall

variable {c : LiveCall}

theorem Fails.run_evaluate {err : EvalError} (hfails : c.Fails host s err s')
    : Dialogue.run host c.evaluate j s = some (.error err, j.report err.message, s') := by
  unfold evaluate
  cases hfails with
  | refused hrequest =>
    rw [Evaluation.run_bind_ask hrequest]
    rfl
  | lost hrequest hwait =>
    rw [Evaluation.run_bind_ask hrequest]
    change Dialogue.run host (Evaluation.ask _ >>= _ : Evaluation Value) j _ = _
    rw [Evaluation.run_bind_ask hwait]
    rfl
  | threw hrequest hwait =>
    rw [Evaluation.run_bind_ask hrequest]
    change Dialogue.run host (Evaluation.ask _ >>= _ : Evaluation Value) j _ = _
    rw [Evaluation.run_bind_ask hwait]
    rfl

end LiveCall

namespace Expr

open Evaluation (Quiet)

theorem quiet_evaluateOption {target : String} {receiver : Option Expr}
    (hreceiver : ∀ e, receiver = some e → Quiet host (e.evaluate source))
    : Quiet host (evaluateOption source target receiver) := by
  unfold evaluateOption
  split
  · apply Evaluation.quiet_pure
  · next e =>
    apply Evaluation.quiet_bind (Evaluation.quiet_orReport (hreceiver e rfl) _)
    intro v
    apply Evaluation.quiet_pure

theorem quiet_evaluateList {target : String} {index : Nat} {args : List Expr}
    (hargs : ∀ e ∈ args, Quiet host (e.evaluate source))
    : Quiet host (evaluateList source target index args) := by
  induction args generalizing index with
  | nil =>
    unfold evaluateList
    apply Evaluation.quiet_pure
  | cons e es ih =>
    rw [List.forall_mem_cons] at hargs
    unfold evaluateList
    apply Evaluation.quiet_bind (Evaluation.quiet_orReport hargs.1 _)
    intro v
    apply Evaluation.quiet_bind (ih hargs.2)
    intro vs
    apply Evaluation.quiet_pure

theorem quiet_evaluate (e : Expr) : Quiet host (e.evaluate source) := by
  induction e using induction with
  | literal l =>
    unfold evaluate
    apply Evaluation.quiet_pure
  | remote v type =>
    unfold evaluate
    apply Evaluation.quiet_pure
  | failing type err =>
    intro j s v j' s' hrun
    unfold evaluate at hrun
    obtain ⟨herr, _⟩ := Dialogue.run_done_inv hrun
    contradiction
  | recorded id e ih =>
    intro j s v j' s' hrun
    unfold evaluate Dialogue.run at hrun
    have hsink := ih hrun
    exact hsink
  | binary op left right b ihl ihr =>
    intro j s v j' s' hrun
    cases b with
    | none =>
      unfold evaluate at hrun
      obtain ⟨herr, _⟩ := Dialogue.run_done_inv hrun
      contradiction
    | some b =>
      cases binaryRun hrun with
      | settled hleft htest => exact ihl hleft
      | operated hoperands hcompute =>
        obtain ⟨hleft, _, hright⟩ := hoperands
        have hsame := Evaluation.quiet_of_reads (op.reads_evaluate _ _ _) hcompute
        exact hsame.trans ((ihr hright).trans (ihl hleft))
  | call target receiver args type compiled iho iha =>
    intro j s v j' s' hrun
    cases compiled with
    | false =>
      unfold evaluate at hrun
      obtain ⟨herr, _⟩ := Dialogue.run_done_inv hrun
      contradiction
    | true =>
      cases callRun hrun with
      | returned hcall hreturns =>
        obtain ⟨_, hreceiver, hargs⟩ := hcall
        exact (quiet_evaluateList iha hargs).trans (quiet_evaluateOption iho hreceiver)

variable {e n : Expr} {err : EvalError}

theorem run_evaluateList_cons_inv {target : String} {index : Nat} {es : List Expr}
    {values : List Value}
    (hrun : Dialogue.run host (evaluateList source target index (e :: es)) j s
      = some (.ok values, j', s'))
    : ∃ v j₁ s₁ vs, Dialogue.run host (e.evaluate source) j s = some (.ok v, j₁, s₁)
        ∧ Dialogue.run host (evaluateList source target (index + 1) es) j₁ s₁
            = some (.ok vs, j', s') := by
  unfold evaluateList at hrun
  obtain ⟨_, _, herr, _⟩ | ⟨v, j₁, s₁, he, hrun⟩ := Evaluation.run_bind_orReport_inv hrun
  · contradiction
  obtain ⟨_, herr, _⟩ | ⟨vs, j₂, s₂, hes, hdone⟩ := Evaluation.run_bind_inv hrun
  · contradiction
  obtain ⟨_, rfl, rfl⟩ := Evaluation.run_pure_inv hdone
  exact ⟨v, j₁, s₁, vs, he, hes⟩

theorem run_evaluateList_failed {target : String} {index : Nat} {before : List Expr}
    {values : List Value} (after : List Expr)
    (hbefore : Dialogue.run host (evaluateList source target index before) j s
      = some (.ok values, j₁, s₁))
    (he : Dialogue.run host (e.evaluate source) j₁ s₁ = some (.error err, j₂, s₂))
    : Dialogue.run host (evaluateList source target index (before ++ e :: after)) j s
      = some (.error err, j₂.report (Position.argument (index + before.length) target).failure, s₂)
        := by
  induction before generalizing index j s values with
  | nil =>
    obtain ⟨_, rfl, rfl⟩ := Evaluation.run_pure_inv hbefore
    exact Evaluation.run_bind_error (Evaluation.run_orReport_error he)
  | cons a before ih =>
    obtain ⟨v, j₃, s₃, vs, ha, hrest⟩ := run_evaluateList_cons_inv hbefore
    rw [List.length_cons, Nat.add_comm before.length, ← Nat.add_assoc, List.cons_append]
    unfold evaluateList
    rw [Evaluation.run_bind_ok (Evaluation.run_orReport_ok ha)]
    exact Evaluation.run_bind_error (ih hrest)

theorem run_evaluateOption_failed (target : String)
    (he : Dialogue.run host (e.evaluate source) j s = some (.error err, j₁, s₁))
    : Dialogue.run host (evaluateOption source target (some e)) j s
      = some (.error err, j₁.report (Position.receiver target).failure, s₁) := by
  unfold evaluateOption
  exact Evaluation.run_bind_error (Evaluation.run_orReport_error he)

theorem Fails.run_evaluate (hfails : Fails host source n j s err j' s')
    : Dialogue.run host (n.evaluate source) j s = some (.error err, j', s') := by
  cases hfails with
  | carried | unbound | uncompiled =>
    unfold evaluate
    rfl
  | undecided hleft htest =>
    unfold evaluate
    rw [Evaluation.run_bind_ok (Evaluation.run_orReport_ok hleft), htest]
    rfl
  | computation hoperands hcompute =>
    obtain ⟨hleft, htest, hright⟩ := hoperands
    unfold evaluate
    rw [Evaluation.run_bind_ok (Evaluation.run_orReport_ok hleft),
      Evaluation.run_bind_ofExcept htest,
      Evaluation.run_bind_ok (Evaluation.run_orReport_ok hright)]
    exact hcompute
  | disabled hpermitted =>
    unfold evaluate
    rw [Evaluation.run_bind_ask hpermitted]
    rfl
  | called hcall hfails =>
    obtain ⟨hpermitted, hreceiver, hargs⟩ := hcall
    unfold evaluate
    rw [Evaluation.run_bind_ask hpermitted, if_pos rfl, Evaluation.run_bind_ok hreceiver,
      Evaluation.run_bind_ok hargs]
    exact hfails.run_evaluate

theorem Reaches.run_evaluate {path : List Position}
    (hreach : Reaches host source e j s path n j₁ s₁)
    (hfails : Fails host source n j₁ s₁ err j₂ s₂)
    : Dialogue.run host (e.evaluate source) j s = some (.error err, j₂.backOut path, s₂) := by
  induction hreach with
  | here => exact hfails.run_evaluate
  | recorded _ ih =>
    unfold evaluate Dialogue.run
    exact ih hfails
  | first _ ih =>
    unfold evaluate
    exact Evaluation.run_bind_error (Evaluation.run_orReport_error (ih hfails))
  | second hleft htest _ ih =>
    unfold evaluate
    rw [Evaluation.run_bind_ok (Evaluation.run_orReport_ok hleft),
      Evaluation.run_bind_ofExcept htest]
    exact Evaluation.run_bind_error (Evaluation.run_orReport_error (ih hfails))
  | receiver hpermitted _ ih =>
    unfold evaluate
    rw [Evaluation.run_bind_ask hpermitted, if_pos rfl]
    exact Evaluation.run_bind_error (run_evaluateOption_failed _ (ih hfails))
  | argument hpermitted hreceiver hbefore _ ih =>
    unfold evaluate
    rw [Evaluation.run_bind_ask hpermitted, if_pos rfl, Evaluation.run_bind_ok hreceiver]
    apply Evaluation.run_bind_error
    rw [run_evaluateList_failed _ hbefore (ih hfails), Nat.zero_add]
    rfl

variable {n' : Expr} {err' : EvalError} {j₁' j₂' : Journal} {s₁' s₂' : σ}
  {path path' : List Position}

theorem Fails.innermost (hfails : Fails host source e j s err j' s')
    (hreach : Reaches host source e j s path n j₁ s₁)
    (hinner : Fails host source n j₁ s₁ err' j₂ s₂) : [] = path ∧ e = n := by
  cases hreach with
  | here => exact ⟨rfl, rfl⟩
  | recorded =>
    cases hfails with
    | called hcall => contradiction
  | first hreach =>
    have hleft := hreach.run_evaluate hinner
    cases hfails with
    | undecided hok => cases hok.symm.trans hleft
    | computation hoperands =>
      obtain ⟨hok, _, _⟩ := hoperands
      cases hok.symm.trans hleft
    | called hcall => contradiction
  | second hok htest hreach =>
    have hright := hreach.run_evaluate hinner
    cases hfails with
    | undecided hok' htest' =>
      cases hok.symm.trans hok'
      cases htest.symm.trans htest'
    | computation hoperands =>
      obtain ⟨hok', _, hright'⟩ := hoperands
      cases hok.symm.trans hok'
      cases hright'.symm.trans hright
    | called hcall => contradiction
  | receiver hpermitted hreach =>
    have hfailed := hreach.run_evaluate hinner
    cases hfails with
    | disabled hdisabled => cases hpermitted.symm.trans hdisabled
    | called hcall =>
      obtain ⟨hpermitted', hreceiver', _⟩ := hcall
      cases hpermitted.symm.trans hpermitted'
      cases hreceiver'.symm.trans (run_evaluateOption_failed _ hfailed)
  | argument hpermitted hreceiver hbefore hreach =>
    have hfailed := hreach.run_evaluate hinner
    cases hfails with
    | disabled hdisabled => cases hpermitted.symm.trans hdisabled
    | called hcall =>
      obtain ⟨hpermitted', hreceiver', hargs'⟩ := hcall
      cases hpermitted.symm.trans hpermitted'
      cases hreceiver.symm.trans hreceiver'
      cases hargs'.symm.trans (run_evaluateList_failed _ hbefore hfailed)

theorem argument_unique {target : String} {index : Nat} {before before' after after' : List Expr}
    {values values' : List Value} (hargs : before ++ e :: after = before' ++ n :: after')
    (hbefore : Dialogue.run host (evaluateList source target index before) j s
      = some (.ok values, j₁, s₁))
    (he : Dialogue.run host (e.evaluate source) j₁ s₁ = some (.error err, j₂, s₂))
    (hbefore' : Dialogue.run host (evaluateList source target index before') j s
      = some (.ok values', j₁', s₁'))
    (hn : Dialogue.run host (n.evaluate source) j₁' s₁' = some (.error err', j₂', s₂'))
    : before' = before ∧ n = e ∧ j₁' = j₁ ∧ s₁' = s₁ := by
  induction before generalizing before' index j s values values' with
  | nil =>
    obtain ⟨_, rfl, rfl⟩ := Evaluation.run_pure_inv hbefore
    cases before' with
    | nil =>
      obtain ⟨_, rfl, rfl⟩ := Evaluation.run_pure_inv hbefore'
      cases hargs
      exact ⟨rfl, rfl, rfl, rfl⟩
    | cons a before' =>
      obtain ⟨v, j₃, s₃, vs, ha, _⟩ := run_evaluateList_cons_inv hbefore'
      cases hargs
      cases ha.symm.trans he
  | cons a before ih =>
    obtain ⟨v, j₃, s₃, vs, ha, hrest⟩ := run_evaluateList_cons_inv hbefore
    cases before' with
    | nil =>
      obtain ⟨_, rfl, rfl⟩ := Evaluation.run_pure_inv hbefore'
      cases hargs
      cases ha.symm.trans hn
    | cons a' before' =>
      obtain ⟨v', j₃', s₃', vs', ha', hrest'⟩ := run_evaluateList_cons_inv hbefore'
      obtain ⟨rfl, htail⟩ := List.cons.inj hargs
      cases ha.symm.trans ha'
      obtain ⟨rfl, hsame⟩ := ih htail hrest hrest'
      exact ⟨rfl, hsame⟩

theorem Reaches.unique (hreach : Reaches host source e j s path n j₁ s₁)
    (hfails : Fails host source n j₁ s₁ err j₂ s₂)
    (hreach' : Reaches host source e j s path' n' j₁' s₁')
    (hfails' : Fails host source n' j₁' s₁' err' j₂' s₂') : path' = path ∧ n' = n := by
  induction hreach generalizing path' with
  | here =>
    obtain ⟨hpath, hn⟩ := hfails.innermost hreach' hfails'
    exact ⟨hpath.symm, hn.symm⟩
  | recorded hinner ih =>
    cases hreach' with
    | here => exact hfails'.innermost (.recorded hinner) hfails
    | recorded hinner' => exact ih hfails hinner'
  | first hinner ih =>
    cases hreach' with
    | here => exact hfails'.innermost (.first hinner) hfails
    | first hinner' =>
      obtain ⟨rfl, hn⟩ := ih hfails hinner'
      exact ⟨rfl, hn⟩
    | second hleft => cases hleft.symm.trans (hinner.run_evaluate hfails)
  | second hleft htest hinner ih =>
    cases hreach' with
    | here => exact hfails'.innermost (.second hleft htest hinner) hfails
    | first hinner' => cases hleft.symm.trans (hinner'.run_evaluate hfails')
    | second hleft' htest' hinner' =>
      cases hleft.symm.trans hleft'
      obtain ⟨rfl, hn⟩ := ih hfails hinner'
      exact ⟨rfl, hn⟩
  | receiver hpermitted hinner ih =>
    cases hreach' with
    | here => exact hfails'.innermost (.receiver hpermitted hinner) hfails
    | receiver hpermitted' hinner' =>
      cases hpermitted.symm.trans hpermitted'
      obtain ⟨rfl, hn⟩ := ih hfails hinner'
      exact ⟨rfl, hn⟩
    | argument hpermitted' hreceiver =>
      cases hpermitted.symm.trans hpermitted'
      cases hreceiver.symm.trans (run_evaluateOption_failed _ (hinner.run_evaluate hfails))
  | argument hpermitted hreceiver hbefore hinner ih =>
    generalize hargs : _ ++ _ :: _ = args at hreach'
    cases hreach' with
    | here =>
      subst hargs
      exact hfails'.innermost (.argument hpermitted hreceiver hbefore hinner) hfails
    | receiver hpermitted' hinner' =>
      cases hpermitted.symm.trans hpermitted'
      cases hreceiver.symm.trans (run_evaluateOption_failed _ (hinner'.run_evaluate hfails'))
    | argument hpermitted' hreceiver' hbefore' hinner' =>
      cases hpermitted.symm.trans hpermitted'
      cases hreceiver.symm.trans hreceiver'
      obtain ⟨rfl, rfl, rfl, rfl⟩ := argument_unique hargs hbefore (hinner.run_evaluate hfails)
        hbefore' (hinner'.run_evaluate hfails')
      obtain ⟨rfl, hn⟩ := ih hfails hinner'
      exact ⟨rfl, hn⟩

section

variable (host : Host σ) (source : Source)

end

end Expr

end Inspector
