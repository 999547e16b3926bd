import Inspector.Proofs.Expr.Orderly
import Inspector.Proofs.System
import Inspector.Proofs.World

/-!
An evaluation that serves its own calls leaves the session as it found it, except that each call
has used up a handle. No node of it gets in the way of another.
-/

namespace Inspector

variable {d : Debuggee} {source served : Source} {th : Thread} {w w' w₁ : World}

theorem Delivery.inTurn_result (delivery : Delivery) : InTurn delivery.result := by
  cases delivery with
  | outcome o => apply inTurn_ok
  | fault f => exact inTurn_error rfl

theorem LiveCall.Fails.inTurn {c : LiveCall} {err : EvalError}
    (hfails : c.Fails (World.host d (.inline served)) w err w') (hidle : w.session.slot = .idle)
    : err.isOutOfTurn = false := by
  by_cases haccepts : w.session.Accepts
  · obtain ⟨w₁, hrequest, hwait⟩ := World.host_request_accepted d served haccepts c
    cases hfails with
    | refused hrequest' => cases hrequest.symm.trans hrequest'
    | lost hrequest' hwait' =>
      cases hrequest.symm.trans hrequest'
      rw [hwait] at hwait'
      simp only [Option.some.injEq, Prod.mk.injEq] at hwait'
      exact Delivery.inTurn_result _ _ hwait'.1
    | threw => rfl
  · obtain ⟨err', hrequest, hturn⟩ := World.host_request_refused d served haccepts c
    cases hfails with
    | refused hrequest' =>
      cases hrequest.symm.trans hrequest'
      exact hturn hidle
    | lost hrequest' | threw hrequest' => cases hrequest.symm.trans hrequest'

namespace Expr

variable {e n : Expr} {j j₁ : Journal}

theorem ran_of_evaluate {r : Except EvalError Value}
    (hrun : Dialogue.run (World.host d (.inline served)) (e.evaluate source) j w = some (r, j₁, w'))
    (hthread : w.session.activeThread = some th) : ∃ calls, World.Ran th w calls w' :=
  World.ran_of_run (orderly_evaluate source e) hthread hrun

theorem ran_of_evaluateOption {target : String} {receiver : Option Expr}
    {r : Except EvalError (Option Value)}
    (hrun : Dialogue.run (World.host d (.inline served)) (evaluateOption source target receiver) j w
      = some (r, j₁, w'))
    (hthread : w.session.activeThread = some th) : ∃ calls, World.Ran th w calls w' := by
  apply World.ran_of_run _ hthread hrun
  apply orderly_evaluateOption
  intro e _
  apply orderly_evaluate

theorem ran_of_evaluateList {target : String} {index : Nat} {args : List Expr}
    {r : Except EvalError (List Value)}
    (hrun : Dialogue.run (World.host d (.inline served)) (evaluateList source target index args) j w
      = some (r, j₁, w'))
    (hthread : w.session.activeThread = some th) : ∃ calls, World.Ran th w calls w' := by
  apply World.ran_of_run _ hthread hrun
  apply orderly_evaluateList
  intro e _
  apply orderly_evaluate

theorem ran_of_calls {c : LiveCall}
    (hcall : Calls (World.host d (.inline served)) source e j w c j₁ w')
    (hthread : w.session.activeThread = some th) : ∃ calls, World.Ran th w calls w' := by
  obtain ⟨hpermitted, hreceiver, hargs⟩ := hcall
  obtain ⟨_, rfl⟩ := World.host_permitted_inv d hpermitted
  obtain ⟨before, hbefore⟩ := ran_of_evaluateOption hreceiver hthread
  obtain ⟨after, hafter⟩ := ran_of_evaluateList hargs (hbefore.activeThread.trans hthread)
  exact ⟨_, hbefore.trans hafter⟩

theorem ran_of_reaches {path : List Position}
    (hreach : Reaches (World.host d (.inline served)) source e j w path n j₁ w')
    (hthread : w.session.activeThread = some th) : ∃ calls, World.Ran th w calls w' := by
  induction hreach with
  | here => exact ⟨[], .none rfl rfl rfl⟩
  | recorded _ ih | first _ ih => exact ih hthread
  | second hleft _ _ ih =>
    obtain ⟨before, hbefore⟩ := ran_of_evaluate hleft hthread
    obtain ⟨after, hafter⟩ := ih (hbefore.activeThread.trans hthread)
    exact ⟨_, hbefore.trans hafter⟩
  | receiver hpermitted _ ih =>
    obtain ⟨_, rfl⟩ := World.host_permitted_inv d hpermitted
    exact ih hthread
  | argument hpermitted hreceiver hbefore _ ih =>
    obtain ⟨_, rfl⟩ := World.host_permitted_inv d hpermitted
    obtain ⟨first, hfirst⟩ := ran_of_evaluateOption hreceiver hthread
    have hthread := hfirst.activeThread.trans hthread
    obtain ⟨second, hsecond⟩ := ran_of_evaluateList hbefore hthread
    obtain ⟨third, hthird⟩ := ih (hsecond.activeThread.trans hthread)
    exact ⟨_, (hfirst.trans hsecond).trans hthird⟩

theorem inTurn_of_fails {err : EvalError}
    (hfails : Fails (World.host d (.inline served)) source n j w err j₁ w')
    (hthread : w.session.activeThread = some th) (hidle : w.session.slot = .idle)
    : err.isOutOfTurn = false ∨ ∃ type, n = failing type err := by
  cases hfails with
  | carried => exact .inr ⟨_, rfl⟩
  | unbound | uncompiled | disabled => exact .inl rfl
  | undecided _ htest => exact .inl (Operator.inTurn_shortCircuit _ _ _ htest)
  | computation _ hcompute =>
    have hfails := (Operator.reads_evaluate _ _ _ _).of_run hcompute
    exact .inl (hfails err rfl).inTurn
  | called hcall hfails =>
    obtain ⟨calls, hran⟩ := ran_of_calls hcall hthread
    exact .inl (hfails.inTurn (hran.slot.trans hidle))

theorem evaluate_restores {ι : Type} [DecidableEq ι] (d : Debuggee) (thread : Thread)
    (config : Config) (before : List (System.Action ι)) (source served : Source) (e : Expr)
    (j : Journal) (t : Debuggee.Trace) (control : Option Nat)
    : let s := (System.run d before (.new thread config)).2.session
      let w : World := ⟨s, t, control⟩
      let host := World.host d (.inline served)
      (∃ r j' w' th calls,
        Dialogue.run host (e.evaluate source) j w = some (r, j', w') ∧
          w'.session = { s with nextHandle := s.nextHandle + calls.length } ∧
          w'.trace.executed = t.executed ++ calls.map (Execution.mk th) ∧
          (calls ≠ [] →
            s.slot = .idle ∧ s.closed = false ∧ s.propertyEvaluation = true ∧
              s.activeThread = some th)) ∧
        (s.slot = .idle → ∀ path n j₁ w₁ err j₂ w₂, Reaches host source e j w path n j₁ w₁ →
          Fails host source n j₁ w₁ err j₂ w₂ → err.isOutOfTurn →
            ∃ type, n = failing type err) ∧
        s.nextHandle ≤ 1 + before.length := by
  intro s w host
  obtain ⟨th, hthread⟩ : ∃ th, s.activeThread = some th :=
    Session.activeThread_run (System.run_session before (.new thread config)) rfl
  refine ⟨?_, ?_, System.nextHandle_run before (.new thread config)⟩
  · obtain ⟨r, j', w', calls, hrun, hran⟩ :=
      World.run_of_orderly (orderly_evaluate source e) d served j (w := w) hthread
    refine ⟨r, j', w', th, calls, hrun, hran.session, hran.executed, ?_⟩
    intro hsome
    have haccepts := hran.accepted hsome
    exact ⟨haccepts.idle, haccepts.isOpen, haccepts.enabled, hthread⟩
  · intro hidle path n j₁ w₁ err j₂ w₂ hreach hfails hturn
    obtain ⟨calls, hran⟩ := ran_of_reaches hreach hthread
    have hthread₁ := hran.activeThread.trans hthread
    obtain hin | hcarried := inTurn_of_fails hfails hthread₁ (hran.slot.trans hidle)
    · rw [hin] at hturn
      contradiction
    · exact hcarried

end Expr

end Inspector
