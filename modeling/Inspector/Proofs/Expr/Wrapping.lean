import Inspector.Proofs.Expr.Operands
import Inspector.Proofs.Word.Residue
import Inspector.World

/-!
Operators that never fail on integers. However the operands are stretched before they meet, the
result is the integer that the operator means, less what does not fit the kind of the result.
-/

namespace Inspector

namespace Operator

open Inspector.Expr (Yields)

/-- What an operator means on integers of any size, where a negative one has ones all the way up.
Operators that divide, shift, compare or test are left out. -/
def unbounded? : Operator → Option (Int → Int → Int)
  | add => some (· + ·)
  | sub => some (· - ·)
  | mul => some (· * ·)
  | bitAnd => some Int.land
  | bitOr => some Int.lor
  | bitXor => some Int.xor
  | _ => none

variable {op : Operator} {f : Int → Int → Int}

theorem ofInt_unbounded_comm (hf : op.unbounded? = some f) (hop : op ≠ .sub) (k : IntKind)
    (a b : Int) : k.ofInt (f a b) = k.ofInt (f b a) := by
  cases op with
  | add =>
    cases hf
    exact congrArg k.ofInt (Int.add_comm a b)
  | mul =>
    cases hf
    exact congrArg k.ofInt (Int.mul_comm a b)
  | bitAnd =>
    cases hf
    rw [IntKind.ofInt_land, IntKind.ofInt_land, BitVec.and_comm]
  | bitOr =>
    cases hf
    rw [IntKind.ofInt_lor, IntKind.ofInt_lor, BitVec.or_comm]
  | bitXor =>
    cases hf
    rw [IntKind.ofInt_xor, IntKind.ofInt_xor, BitVec.xor_comm]
  | _ => contradiction

variable (k l : IntKind) (x : BitVec k.width) (y : BitVec l.width)

theorem gives_cut (hf : op.unbounded? = some f)
    : op.Gives (.int k x) (.int l y) (.of (k.promote l).kind)
        (.ok (.int (k.promote l).toIntKind
          ((k.promote l).toIntKind.ofInt (f (k.toInt x) (l.toInt y))))) := by
  cases op with
  | add =>
    cases hf
    rw [IntKind.ofInt_add, ← IntKind.convert_eq, ← IntKind.convert_eq]
    exact gives_arithmetic k l x y rfl
  | sub =>
    cases hf
    rw [IntKind.ofInt_sub, ← IntKind.convert_eq, ← IntKind.convert_eq]
    exact gives_arithmetic k l x y rfl
  | mul =>
    cases hf
    rw [IntKind.ofInt_mul, ← IntKind.convert_eq, ← IntKind.convert_eq]
    exact gives_arithmetic k l x y rfl
  | bitAnd =>
    cases hf
    rw [IntKind.ofInt_land, ← IntKind.convert_eq, ← IntKind.convert_eq]
    exact gives_bitwise k l x y rfl
  | bitOr =>
    cases hf
    rw [IntKind.ofInt_lor, ← IntKind.convert_eq, ← IntKind.convert_eq]
    exact gives_bitwise k l x y rfl
  | bitXor =>
    cases hf
    rw [IntKind.ofInt_xor, ← IntKind.convert_eq, ← IntKind.convert_eq]
    exact gives_bitwise k l x y rfl
  | _ => contradiction

theorem gives_wrapped (hf : op.unbounded? = some f)
    : let word := k.promote l
      let whole := f (k.toInt x) (l.toInt y)
      ∃ z, op.Gives (.int k x) (.int l y) (.of word.kind) (.ok (.int word.toIntKind z))
        ∧ (∀ v, v = word.toInt z ↔ word.toIntKind.Holds v ∧ v ≡ whole [ZMOD 2 ^ word.width])
        ∧ (word.toInt z = whole ↔ word.toIntKind.Holds whole)
        ∧ (op ≠ .sub →
            op.Gives (.int l y) (.int k x) (.of word.kind) (.ok (.int word.toIntKind z))) := by
  intro word whole
  refine ⟨_, gives_cut k l x y hf, fun v => IntKind.eq_toInt_ofInt_iff, IntKind.toInt_ofInt_eq_iff,
    ?_⟩
  intro hop
  have hswapped := gives_cut l k y x hf
  rw [IntKind.promote_comm l k, ofInt_unbounded_comm hf hop] at hswapped
  exact hswapped

theorem gives_wrapped_mixed
    : let d := Debuggee.ofTables [] [("get_Mask", .returned (.primitive (.int .u64 0xFF)))]
      let host := World.host d (.inline .attached)
      let e : Expr := .apply .bitXor (.invoke "get_Mask") (.literal (.primitive (.int .i8 (-1))))
      let c := e.compile (fun _ => some (.of (.int .u64))) {}
      let w := World.new ⟨1⟩ {}
      bitXor.unbounded? = some Int.xor ∧ c.result = .ok () ∧ c.tree.type = .of (.int .u64)
        ∧ ∃ z w', Dialogue.run host (c.tree.evaluate .attached) {} w
            = some (.ok (.primitive (.int .u64 z)), {}, w')
          ∧ IntKind.u64.toInt z = 2 ^ 64 - 256 := by
  intro d host e c w
  have hxor : bitXor.unbounded? = some Int.xor := rfl
  obtain ⟨z, hgives, hresidue, _⟩ := gives_wrapped .u64 .i8 0xFF (-1) hxor
  have hz : 2 ^ 64 - 256 = IntKind.u64.toInt z := (hresidue _).mpr (by decide)
  obtain ⟨w₁, hcall⟩ : ∃ w₁, Yields host .attached (fun _ => some (.of (.int .u64))) {}
      (.invoke "get_Mask") {} w (.int .u64 0xFF) {} w₁ := ⟨_, rfl, rfl, rfl⟩
  have ⟨hcompile, htype, hrun⟩ := hgives host .attached _ _ _ _ none _ _ _ _ _ _ hcall
    (Expr.yields_literal ..)
  exact ⟨hxor, hcompile, htype, z, w₁, hrun, hz.symm⟩

end Operator

end Inspector
