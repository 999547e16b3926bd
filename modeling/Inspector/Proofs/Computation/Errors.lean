import Inspector.Expr.Evaluate
import Inspector.Proofs.Dialogue.Orderly

/-!
The errors of computations. An operand cannot be read as the computation reads it, or both have
been read and the operator fails on what they hold. Nothing is asked for on the way but strings. The
first operand of a conditional operator may settle the matter before the second one is looked at.
-/

namespace Inspector

variable {α β γ δ : Type} {P Q : EvalError → Prop}

def FailsAs (P : EvalError → Prop) (r : Except EvalError α) : Prop := ∀ err, r = .error err → P err

theorem failsAs_ok (a : α) : FailsAs P (.ok a : Except EvalError α) := by
  intro err herr
  contradiction

theorem failsAs_error {err : EvalError} (herr : P err)
    : FailsAs P (.error err : Except EvalError α) := by
  intro err' heq
  cases heq
  exact herr

theorem FailsAs.mono {r : Except EvalError α} (hr : FailsAs P r) (hPQ : ∀ err, P err → Q err)
    : FailsAs Q r := by
  intro err herr
  exact hPQ err (hr err herr)

theorem failsAs_bind {x : Except EvalError α} {f : α → Except EvalError β} (hx : FailsAs P x)
    (hf : ∀ a, FailsAs P (f a)) : FailsAs P (x >>= f) := by
  cases x with
  | ok a => apply hf
  | error err =>
    apply failsAs_error
    apply hx
    rfl

theorem failsAs_operands {x : Except EvalError α} {y : Except EvalError β}
    {f : α → β → Except EvalError γ} {g : γ → δ} (hx : FailsAs P x) (hy : FailsAs P y)
    (hf : ∀ a b, FailsAs P (f a b)) : FailsAs P (do return g (← f (← x) (← y))) := by
  apply failsAs_bind hx
  intro a
  apply failsAs_bind hy
  intro b
  apply failsAs_bind (hf a b)
  intro c
  apply failsAs_ok

inductive EvalError.IsUnreadable : EvalError → Prop where
  | mismatch (cause : Mismatch) : IsUnreadable (.typeMismatch cause)
  | unavailable (cause : Unavailable) : IsUnreadable (.valueUnavailable cause)

open EvalError (IsUnreadable)
open Dialogue (Reads)

namespace Value

theorem failsAs_readScalar (wanted : Kind) (read : Primitive → Option α) (v : Value)
    : FailsAs IsUnreadable (v.readScalar wanted read) := by
  unfold readScalar
  split
  · split
    · apply failsAs_ok
    · exact failsAs_error (.mismatch _)
  · exact failsAs_error (.mismatch _)

theorem failsAs_read (k : NumKind) (v : Value) : FailsAs IsUnreadable (k.read v) := by
  cases k <;> apply failsAs_readScalar

end Value

theorem StringValue.reads_content (s : StringValue)
    : Reads (fun r => FailsAs IsUnreadable r.1) s.content := by
  unfold content
  split
  · exact .done (failsAs_ok _)
  · exact .done (failsAs_ok _)
  · apply Reads.ask
    intro r
    cases r with
    | ok content => exact .done (failsAs_ok _)
    | error reason => exact .done (failsAs_error (.unavailable reason))

theorem Value.reads_content (v : Value) : Reads (fun r => FailsAs IsUnreadable r.1) v.content := by
  unfold content
  split
  · next s =>
    apply s.reads_content.bind
    intro r hr
    exact .done hr
  · exact .done (failsAs_error (.mismatch _))

theorem Value.reads_operandContent (v : Value)
    : Reads (fun r => FailsAs IsUnreadable r.1) v.operandContent := by
  unfold operandContent
  split
  · exact .done (failsAs_ok _)
  · apply v.reads_content.bind
    intro ⟨r, v⟩ hr
    apply Reads.done
    cases r with
    | ok content => apply failsAs_ok
    | error err => exact failsAs_error (hr err rfl)

theorem Operands.reads_contentsEqual (o : Operands)
    : Reads (fun r => FailsAs IsUnreadable r.1) o.contentsEqual := by
  apply o.left.reads_operandContent.bind
  intro ⟨l, v⟩ hl
  cases l with
  | error err => exact .done (failsAs_error (hl err rfl))
  | ok l =>
    apply (o.setLeft v).right.reads_operandContent.bind
    intro ⟨r, w⟩ hr
    cases r with
    | error err => exact .done (failsAs_error (hr err rfl))
    | ok r => exact .done (failsAs_ok _)

inductive Computation.Fails (op : Operator) : Computation → EvalError → Prop where
  | operand {c : Computation} (herr : err.IsUnreadable) : Fails op c err
  | arithmetic {x y : k.Carrier} (herr : op.arithmetic k x y = .error err)
      : Fails op (.arithmetic k) err
  | comparison {x y : k.Carrier} (herr : op.compare k x y = .error err)
      : Fails op (.comparison k) err
  | bitwise {x y : k.Carrier} (herr : op.bitwise k x y = .error err) : Fails op (.bitwise k) err
  | shift {x : k.Carrier} {count : Nat} (herr : op.shift k x count = .error err)
      : Fails op (.shift k mask) err
  | boolean (herr : op.boolean x y = .error err) : Fails op .boolean err
  | contents (herr : op.equality equal = .error err) : Fails op .stringEquality err
  | identities (herr : op.equality equal = .error err) : Fails op .referenceEquality err

theorem Computation.failsAs_unreadable {op : Operator} {c : Computation} {r : Except EvalError α}
    (hr : FailsAs IsUnreadable r) : FailsAs (c.Fails op) r :=
  hr.mono fun _ => .operand

theorem Operator.reads_onContents (op : Operator) (o : Operands)
    : Reads (fun r => FailsAs (Computation.Fails op .stringEquality) r.1) (op.onContents o) := by
  apply o.reads_contentsEqual.bind
  intro ⟨r, o⟩ hr
  apply Reads.done
  apply failsAs_bind (Computation.failsAs_unreadable hr)
  intro equal
  apply failsAs_bind
  · intro err herr
    exact .contents herr
  · intro b
    apply failsAs_ok

theorem Computation.reads_apply (c : Computation) (op : Operator) (o : Operands)
    : Reads (fun r => FailsAs (c.Fails op) r.1) (c.apply op o) := by
  have hscalar {α : Type} (v : Value) (wanted : Kind) (read : Primitive → Option α)
      : FailsAs (c.Fails op) (v.readScalar wanted read) :=
    failsAs_unreadable (v.failsAs_readScalar wanted read)
  have hread (v : Value) (k : NumKind) : FailsAs (c.Fails op) (k.read v) :=
    failsAs_unreadable (v.failsAs_read k)
  cases c with
  | arithmetic k =>
    exact .done (failsAs_operands (hread _ k) (hread _ k) fun x y err => .arithmetic)
  | comparison k =>
    exact .done (failsAs_operands (hread _ k) (hread _ k) fun x y err => .comparison)
  | bitwise k =>
    exact .done (failsAs_operands (hscalar _ _ _) (hscalar _ _ _) fun x y err => .bitwise)
  | shift k mask =>
    exact .done (failsAs_operands (hscalar _ _ _) (hscalar _ _ _) fun count x err => .shift)
  | boolean =>
    exact .done (failsAs_operands (hscalar _ _ _) (hscalar _ _ _) fun x y err => .boolean)
  | stringEquality => apply op.reads_onContents
  | referenceEquality =>
    apply Reads.done
    apply failsAs_bind
    · intro err herr
      exact .identities herr
    · intro b
      apply failsAs_ok

theorem Operator.reads_evaluate (op : Operator) (c : Computation) (l r : Value)
    : Reads (FailsAs (c.Fails op)) (op.evaluate c l r) := by
  apply (c.reads_apply op (.pair l r)).bind
  intro ⟨r, o⟩ hr
  apply Reads.done
  cases r with
  | ok p => apply failsAs_ok
  | error err => exact failsAs_error (hr err rfl)

namespace Operator

variable {op : Operator} {v : Value}

/-- What a first operand makes of an operator: nothing, a result, or a second operand is needed. -/
inductive Verdict (op : Operator) (v : Value) : Except EvalError (Option Bool) → Prop where
  | illTyped (hop : op = .conditionalAnd ∨ op = .conditionalOr) (hv : v.toBool = .error err)
      : Verdict op v (.error err)
  | settled (hop : op = .conditionalAnd ∧ b = false ∨ op = .conditionalOr ∧ b = true)
      (hv : v.toBool = .ok b) : Verdict op v (.ok (some b))
  | unsettled (hand : op = .conditionalAnd → v.toBool = .ok true)
      (hor : op = .conditionalOr → v.toBool = .ok false) : Verdict op v (.ok none)

theorem verdict_of_shortCircuit {r : Except EvalError (Option Bool)}
    (htest : op.shortCircuit v = r) : op.Verdict v r := by
  subst htest
  unfold shortCircuit
  cases op with
  | conditionalAnd =>
    cases hv : v.toBool with
    | error err => exact .illTyped (.inl rfl) hv
    | ok b =>
      cases b with
      | false => exact .settled (.inl ⟨rfl, rfl⟩) hv
      | true => exact .unsettled (fun _ => hv) (by simp)
  | conditionalOr =>
    cases hv : v.toBool with
    | error err => exact .illTyped (.inr rfl) hv
    | ok b =>
      cases b with
      | false => exact .unsettled (by simp) fun _ => hv
      | true => exact .settled (.inr ⟨rfl, rfl⟩) hv
  | _ => exact .unsettled (by simp) (by simp)

theorem failsAs_shortCircuit (op : Operator) (v : Value)
    : FailsAs IsUnreadable (op.shortCircuit v) := by
  intro err htest
  cases verdict_of_shortCircuit htest with
  | illTyped _ hv => exact v.failsAs_readScalar _ _ err hv

end Operator

end Inspector
