import Inspector.Kind.Promotion

/-!
Binding: the types of two operands decide, before anything is evaluated, what an operator will
compute and of which type the result is.
-/

namespace Inspector

inductive Computation where
  | arithmetic (kind : NumKind)
  | comparison (kind : NumKind)
  | bitwise (kind : WordKind)
  | shift (kind : WordKind) (mask : Nat)
  | boolean
  | stringEquality
  | referenceEquality
  deriving DecidableEq, Repr

structure Binding where
  computation : Computation
  type : TypeSignature
  deriving DecidableEq, Repr

def Operator.bind (op : Operator) (left right : TypeSignature) : Except EvalError Binding :=
  let mismatch : EvalError := .typeMismatch (.operands op left right)
  match op.family with
  | .arithmetic =>
    if left.kind.isNumeric && right.kind.isNumeric then do
      let k ← left.kind.promote right.kind
      return ⟨.arithmetic k, .of k.kind⟩
    else
      .error mismatch
  | .relational =>
    if left.kind.isNumeric && right.kind.isNumeric then do
      let k ← left.kind.promote right.kind
      return ⟨.comparison k, .boolean⟩
    else if !op.isEquality then
      .error (.notSupported (.operands op left right))
    else if left.kind = .boolean ∧ right.kind = .boolean then
      .ok ⟨.boolean, .boolean⟩
    else if left.kind = .string ∧ right.kind = .string then
      .ok ⟨.stringEquality, .boolean⟩
    else if !left.kind.isNumeric && !right.kind.isNumeric then
      .ok ⟨.referenceEquality, .boolean⟩
    else
      .error mismatch
  | .conditional =>
    if left.kind = .boolean ∧ right.kind = .boolean then .ok ⟨.boolean, .boolean⟩
    else .error mismatch
  | .logical =>
    match left.kind, right.kind with
    | .int l, .int r => .ok ⟨.bitwise (l.promote r), .of (l.promote r).kind⟩
    | .boolean, .boolean => .ok ⟨.boolean, .boolean⟩
    | _, _ => .error mismatch
  | .shift =>
    if right.kind.isIntegral then
      match left.kind.shiftKind with
      | some k => .ok ⟨.shift k k.shiftMask, .of k.kind⟩
      | none => .error mismatch
    else
      .error mismatch

end Inspector
