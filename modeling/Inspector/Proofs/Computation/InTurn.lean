import Inspector.Proofs.Computation.Errors

/-!
Computations never fail in the way a session does that is asked out of turn.
-/

namespace Inspector

def EvalError.isOutOfTurn : EvalError → Bool
  | evalInProgress | invalidOperation (.notOutstanding _) | invalidOperation .noOutcome => true
  | _ => false

variable {α : Type}

def InTurn (r : Except EvalError α) : Prop := ∀ err, r = .error err → err.isOutOfTurn = false

theorem inTurn_ok (a : α) : InTurn (.ok a : Except EvalError α) := failsAs_ok a

theorem inTurn_error {err : EvalError} (herr : err.isOutOfTurn = false)
    : InTurn (.error err : Except EvalError α) := failsAs_error herr

theorem EvalError.IsUnreadable.inTurn {err : EvalError} (herr : err.IsUnreadable)
    : err.isOutOfTurn = false := by
  cases herr <;> rfl

theorem WordKind.inTurn_div (k : WordKind) (x y : k.Carrier) : InTurn (k.div x y) := by
  unfold div
  split
  · apply inTurn_error
    rfl
  · split
    · apply inTurn_error
      rfl
    · apply inTurn_ok

theorem WordKind.inTurn_rem (k : WordKind) (x y : k.Carrier) : InTurn (k.rem x y) := by
  unfold rem
  split
  · apply inTurn_error
    rfl
  · split
    · apply inTurn_error
      rfl
    · apply inTurn_ok

namespace Operator

variable (op : Operator)

theorem inTurn_inapplicable (usage : Usage) : InTurn (op.inapplicable usage : Except EvalError α) :=
  inTurn_error rfl

theorem inTurn_arithmetic (k : NumKind) (x y : k.Carrier) : InTurn (op.arithmetic k x y) := by
  unfold arithmetic
  split
  case h_4 =>
    cases k with
    | word k => apply k.inTurn_div
    | float k => apply inTurn_ok
  case h_5 =>
    cases k with
    | word k => apply k.inTurn_rem
    | float k => apply inTurn_ok
  case h_6 => apply inTurn_inapplicable
  all_goals apply inTurn_ok

theorem inTurn_compare (k : NumKind) (x y : k.Carrier) : InTurn (op.compare k x y) := by
  unfold compare
  split <;> first | apply inTurn_ok | apply inTurn_inapplicable

theorem inTurn_bitwise (k : WordKind) (x y : k.Carrier) : InTurn (op.bitwise k x y) := by
  unfold bitwise
  split <;> first | apply inTurn_ok | apply inTurn_inapplicable

theorem inTurn_shift (k : WordKind) (x : k.Carrier) (count : Nat)
    : InTurn (op.shift k x count) := by
  unfold shift
  split <;> first | apply inTurn_ok | apply inTurn_inapplicable

theorem inTurn_boolean (x y : Bool) : InTurn (op.boolean x y) := by
  unfold boolean
  split <;> first | apply inTurn_ok | apply inTurn_inapplicable

theorem inTurn_equality (equal : Bool) : InTurn (op.equality equal) := by
  unfold equality
  split <;> first | apply inTurn_ok | apply inTurn_inapplicable

theorem inTurn_shortCircuit (v : Value) : InTurn (op.shortCircuit v) :=
  (op.failsAs_shortCircuit v).mono fun _ => EvalError.IsUnreadable.inTurn

end Operator

theorem Computation.Fails.inTurn {c : Computation} {op : Operator} {err : EvalError}
    (hfails : c.Fails op err) : err.isOutOfTurn = false := by
  cases hfails with
  | operand herr => exact herr.inTurn
  | arithmetic herr => exact op.inTurn_arithmetic _ _ _ err herr
  | comparison herr => exact op.inTurn_compare _ _ _ err herr
  | bitwise herr => exact op.inTurn_bitwise _ _ _ err herr
  | shift herr => exact op.inTurn_shift _ _ _ err herr
  | boolean herr => exact op.inTurn_boolean _ _ err herr
  | contents herr | identities herr => exact op.inTurn_equality _ err herr

end Inspector
