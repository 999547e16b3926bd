import Inspector.Proofs.Computation.Errors
import Inspector.Proofs.Expr.Failure

/-!
Evaluations are orderly: no tree asks for a live call before it has been told the outcome of the
one before.
-/

namespace Inspector

open Dialogue (Orderly)

namespace LiveCall

def conclude (c : LiveCall) (answer : Except EvalError Outcome) : Evaluation Value := do
  match ← Evaluation.reporting answer with
  | .returned v => return v
  | .threw e => Evaluation.fail (.evalFault (.threw c.target e.type))

theorem evaluate_eq (c : LiveCall)
    : c.evaluate = Dialogue.ask (.request c) fun
        | .ok h => Dialogue.ask (.wait h) c.conclude
        | .error err => Evaluation.fail err := by
  apply congrArg (Dialogue.ask (.request c))
  funext r
  cases r <;> rfl

theorem orderly_evaluate (c : LiveCall) : Orderly c.evaluate := by
  rw [evaluate_eq]
  apply Orderly.request
  · intro err
    apply Evaluation.orderly_fail
  · intro h
    rfl
  · intro _ answer
    apply Evaluation.orderly_bind
    · apply Evaluation.orderly_reporting
    · intro outcome
      cases outcome with
      | returned v => exact .done
      | threw e => apply Evaluation.orderly_fail

end LiveCall

namespace Expr

variable (source : Source)

theorem orderly_evaluateOption (target : String) (receiver : Option Expr)
    (hreceiver : ∀ e, receiver = some e → Orderly (e.evaluate source))
    : Orderly (evaluateOption source target receiver) := by
  unfold evaluateOption
  split
  · exact .done
  · next e =>
    apply Evaluation.orderly_bind
    · apply Evaluation.orderly_orReport
      exact hreceiver e rfl
    · intro v
      exact .done

theorem orderly_evaluateList (target : String) (index : Nat) (args : List Expr)
    (hargs : ∀ e ∈ args, Orderly (e.evaluate source))
    : Orderly (evaluateList source target index args) := by
  induction args generalizing index with
  | nil =>
    unfold evaluateList
    exact .done
  | cons e es ih =>
    rw [List.forall_mem_cons] at hargs
    unfold evaluateList
    apply Evaluation.orderly_bind
    · apply Evaluation.orderly_orReport
      exact hargs.1
    · intro v
      apply Evaluation.orderly_bind
      · exact ih (index + 1) hargs.2
      · intro vs
        exact .done

theorem orderly_evaluate (e : Expr) : Orderly (e.evaluate source) := by
  induction e using induction with
  | literal l =>
    unfold evaluate
    exact .done
  | remote v type =>
    unfold evaluate
    exact .done
  | failing type err =>
    unfold evaluate
    exact .done
  | recorded id e ih =>
    unfold evaluate
    exact .visit ih
  | binary op left right b ihl ihr =>
    cases b with
    | none =>
      unfold evaluate
      exact .done
    | some b =>
      unfold evaluate
      apply Evaluation.orderly_bind
      · apply Evaluation.orderly_orReport
        exact ihl
      · intro l
        apply Evaluation.orderly_bind
        · exact .done
        · intro d
          cases d with
          | some d => exact .done
          | none =>
            apply Evaluation.orderly_bind
            · apply Evaluation.orderly_orReport
              exact ihr
            · intro r
              exact (op.reads_evaluate b.computation l r).orderly
  | call target receiver args type compiled iho iha =>
    cases compiled with
    | false =>
      unfold evaluate
      exact .done
    | true =>
      unfold evaluate
      apply Evaluation.orderly_bind
      · exact .permitted fun b => .done
      · intro permitted
        cases permitted with
        | false => apply Evaluation.orderly_fail
        | true =>
          apply Evaluation.orderly_bind
          · exact orderly_evaluateOption source target receiver iho
          · intro this
            apply Evaluation.orderly_bind
            · exact orderly_evaluateList source target 0 args iha
            · intro values
              apply LiveCall.orderly_evaluate

end Expr

end Inspector
