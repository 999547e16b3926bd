import Inspector.Proofs.Computation.Safe
import Inspector.Proofs.Expr.Run

/-!
Binary nodes on scalars. What a compiled node makes of two scalars does not depend on where they
come from: any two expressions will do that are of the kinds of the scalars and come to them.
-/

namespace Inspector

variable {σ : Type}

namespace Expr

/-- The expression compiles with the kind of the scalar, and its evaluation comes to the scalar. -/
structure Yields (host : Host σ) (source : Source) (ctx : Context) (sink : Sink) (e : Expr)
    (j : Journal) (s : σ) (p : Primitive) (j' : Journal) (s' : σ) : Prop where
  compiles : (e.compile ctx sink).result = .ok ()
  kind : (e.compile ctx sink).tree.type.kind = p.kind
  evaluates : Dialogue.run host ((e.compile ctx sink).tree.evaluate source) j s
    = some (.ok (.primitive p), j', s')

theorem compile_binary {ctx : Context} {sink : Sink} {op : Operator} {left right : Expr}
    {b : Binding} (hleft : (left.compile ctx sink).result = .ok ())
    (hright : (right.compile ctx (left.compile ctx sink).sink).result = .ok ())
    (hbind : op.bind (left.compile ctx sink).tree.type
      (right.compile ctx (left.compile ctx sink).sink).tree.type = .ok b) (bound : Option Binding)
    : (binary op left right bound).compile ctx sink
      = ⟨binary op (left.compile ctx sink).tree
          (right.compile ctx (left.compile ctx sink).sink).tree (some b),
        (right.compile ctx (left.compile ctx sink).sink).sink, .ok ()⟩ := by
  rw [compile]
  simp only [hleft, hright, hbind]

theorem yields_literal (host : Host σ) (source : Source) (ctx : Context) (sink : Sink)
    (j : Journal) (s : σ) (p : Primitive)
    : Yields host source ctx sink (.literal (.primitive p)) j s p j s := ⟨rfl, rfl, rfl⟩

end Expr

namespace Operator

open Inspector.Expr (Yields)

/-- A node on two such scalars compiles with this type and comes to this, and to nothing else. -/
def Gives (op : Operator) (p q : Primitive) (type : TypeSignature)
    (r : Except EvalError Primitive) : Prop :=
  ∀ ⦃σ : Type⦄ (host : Host σ) (source : Source) (ctx : Context) (sink : Sink)
    (left right : Expr) (bound : Option Binding) (j j₁ j₂ : Journal) (s s₁ s₂ : σ),
    Yields host source ctx sink left j s p j₁ s₁ →
    Yields host source ctx (left.compile ctx sink).sink right j₁ s₁ q j₂ s₂ →
      let c := (Expr.binary op left right bound).compile ctx sink
      c.result = .ok () ∧ c.tree.type = type ∧
        Dialogue.run host (c.tree.evaluate source) j s = some (r.map .primitive, j₂, s₂)

variable {op : Operator}

theorem gives_of_bind {p q : Primitive} {b : Binding} {r : Except EvalError Primitive}
    (hop : op.family ≠ .conditional) (hbind : op.bind (.of p.kind) (.of q.kind) = .ok b)
    (happly : b.computation.apply op (.pair (.primitive p) (.primitive q))
      = .done (r, .pair (.primitive p) (.primitive q)))
    : op.Gives p q b.type r := by
  intro σ host source ctx sink left right bound j j₁ j₂ s s₁ s₂ hleft hright
  have hcompile := Expr.compile_binary hleft.compiles hright.compiles
    (bind_of_kinds hleft.kind hright.kind hbind) bound
  have htest : op.shortCircuit (.primitive p) = .ok none :=
    Classical.not_not.mp (mt conditional_of_shortCircuit hop)
  rw [hcompile]
  refine ⟨rfl, rfl, ?_⟩
  unfold Expr.evaluate
  rw [Evaluation.run_bind_ok (Evaluation.run_orReport_ok hleft.evaluates),
    Evaluation.run_bind_ofExcept htest,
    Evaluation.run_bind_ok (Evaluation.run_orReport_ok hright.evaluates)]
  unfold evaluate
  rw [happly]
  rfl

theorem Gives.unique {p q : Primitive} {type type' : TypeSignature}
    {r r' : Except EvalError Primitive}
    (hgives : op.Gives p q type r) (hgives' : op.Gives p q type' r') : r = r' := by
  -- Any host will do: literals do not ask it.
  let host : Host Unit := fun _ _ => none
  have hp := Expr.yields_literal host .attached (fun _ => none) {} {} () p
  have hq := Expr.yields_literal host .attached (fun _ => none) {} {} () q
  have hrun := (hgives host _ _ _ _ _ none _ _ _ _ _ _ hp hq).2.2
  have hrun' := (hgives' host _ _ _ _ _ none _ _ _ _ _ _ hp hq).2.2
  have heq : r.map Value.primitive = r'.map Value.primitive := by
    simpa using hrun.symm.trans hrun'
  cases r <;> cases r' <;> cases heq <;> rfl

section

variable (k l : IntKind) (x : BitVec k.width) (y : BitVec l.width)

theorem gives_arithmetic (hop : op.family = .arithmetic)
    : op.Gives (.int k x) (.int l y) (.of (k.promote l).kind)
        ((op.arithmetic (.word (k.promote l)) (k.convert (k.promote l).toIntKind x)
          (l.convert (k.promote l).toIntKind y)).map (.int (k.promote l).toIntKind)) := by
  have hbind : op.bind (.of (.int k)) (.of (.int l))
      = .ok ⟨.arithmetic (.word (k.promote l)), .of (k.promote l).kind⟩ := by
    cases op <;> first | contradiction | rfl
  have hfamily : op.family ≠ .conditional := by
    rw [hop]
    decide
  exact gives_of_bind (p := .int k x) (q := .int l y) hfamily hbind (apply_arithmetic rfl rfl)

theorem gives_bitwise (hop : op.family = .logical)
    : op.Gives (.int k x) (.int l y) (.of (k.promote l).kind)
        ((op.bitwise (k.promote l) (k.convert (k.promote l).toIntKind x)
          (l.convert (k.promote l).toIntKind y)).map (.int (k.promote l).toIntKind)) := by
  have hbind : op.bind (.of (.int k)) (.of (.int l))
      = .ok ⟨.bitwise (k.promote l), .of (k.promote l).kind⟩ := by
    cases op <;> first | contradiction | rfl
  have hfamily : op.family ≠ .conditional := by
    rw [hop]
    decide
  exact gives_of_bind (p := .int k x) (q := .int l y) hfamily hbind (apply_bitwise rfl rfl)

theorem gives_shift (hop : op.family = .shift)
    : op.Gives (.int k x) (.int l y) (.of k.widen.kind)
        ((op.shift k.widen (k.convert k.widen.toIntKind x)
          ((l.convert .i32 y).toNat % k.widen.width)).map (.int k.widen.toIntKind)) := by
  have hbind : op.bind (.of (.int k)) (.of (.int l))
      = .ok ⟨.shift k.widen k.widen.shiftMask, .of k.widen.kind⟩ := by
    cases op <;> first | contradiction | rfl
  have hfamily : op.family ≠ .conditional := by
    rw [hop]
    decide
  rw [← WordKind.and_shiftMask]
  exact gives_of_bind (p := .int k x) (q := .int l y) hfamily hbind (apply_shift rfl rfl)

theorem gives_comparison (hop : op.family = .relational)
    : op.Gives (.int k x) (.int l y) .boolean
        ((op.compare (.word (k.promote l)) (k.convert (k.promote l).toIntKind x)
          (l.convert (k.promote l).toIntKind y)).map .bool) := by
  have hbind : op.bind (.of (.int k)) (.of (.int l))
      = .ok ⟨.comparison (.word (k.promote l)), .boolean⟩ := by
    cases op <;> first | contradiction | rfl
  have hfamily : op.family ≠ .conditional := by
    rw [hop]
    decide
  exact gives_of_bind (p := .int k x) (q := .int l y) hfamily hbind
    (apply_comparison (k := .word (k.promote l)) rfl rfl)

end

end Operator

end Inspector
