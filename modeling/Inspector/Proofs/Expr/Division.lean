import Inspector.Proofs.Expr.Operands
import Inspector.Proofs.Word.Residue

/-!
Quotients and remainders of integers. Of two words that hold the operands either both exist or
neither does, and if they do nothing is cut off from them.
-/

namespace Inspector

theorem tdiv_law {a b : Int} (hb : b ≠ 0)
    : a.tdiv b * b + a.tmod b = a ∧ (a.tmod b).natAbs < b.natAbs
        ∧ (a.tmod b = 0 ∨ (a.tmod b).sign = a.sign) := by
  refine ⟨Int.tdiv_mul_add_tmod a b, ?_, ?_⟩
  · rw [Int.natAbs_tmod]
    exact Nat.mod_lt _ (Int.natAbs_pos.mpr hb)
  · rw [Int.sign_tmod]
    split
    next hdvd => exact .inl (Int.tmod_eq_zero_of_dvd hdvd)
    next => exact .inr rfl

namespace Operator

variable {op : Operator}

theorem family_of_divides (hop : op.divides = true) : op.family = .arithmetic := by
  cases op <;> first | contradiction | rfl

theorem gives_calculated (k l : IntKind) (x : BitVec k.width) (y : BitVec l.width) (op : Operator)
    (hop : op.family = .arithmetic)
    : ∃ r, op.Calculated (k.promote l) (k.convert (k.promote l).toIntKind x)
          (l.convert (k.promote l).toIntKind y) r
        ∧ op.Gives (.int k x) (.int l y) (.of (k.promote l).kind)
            (r.map (.int (k.promote l).toIntKind)) :=
  ⟨_, calculated hop _ _ _, gives_arithmetic k l x y hop⟩

theorem gives_divided (k l : IntKind) (x : BitVec k.width) (y : BitVec l.width)
    : let word := k.promote l
      let a := word.toInt (k.convert word.toIntKind x)
      let b := word.toInt (l.convert word.toIntKind y)
      (∀ op : Operator, op.divides = true →
          op.SafeOn (.arithmetic (.word word)) (.primitive (.int k x)) (.primitive (.int l y)))
        ∧ if l.toInt y = 0 ∨ word.signed = true ∧ a = word.toIntKind.minValue ∧ b = -1 then
            ∀ op : Operator, op.divides = true →
              op.Gives (.int k x) (.int l y) (.of word.kind) (.error (.invalidOperation
                (if b = 0 then .divisionByZero else .overflow op a b)))
          else
            ∃ q m, Gives .div (.int k x) (.int l y) (.of word.kind) (.ok (.int word.toIntKind q))
              ∧ Gives .mod (.int k x) (.int l y) (.of word.kind) (.ok (.int word.toIntKind m))
              ∧ word.toInt q * b + word.toInt m = a
              ∧ (word.toInt m).natAbs < b.natAbs
              ∧ (word.toInt m = 0 ∨ (word.toInt m).sign = a.sign) := by
  intro word a b
  have hzero : b = 0 ↔ l.toInt y = 0 := IntKind.convert_eq_zero_iff k l y
  have hnone : b = 0 ∨ ¬word.toIntKind.Holds (a.tdiv b)
      ↔ l.toInt y = 0 ∨ word.signed = true ∧ a = word.toIntKind.minValue ∧ b = -1 := by
    rw [WordKind.not_holds_quotient_iff, hzero]
  constructor
  · intro op hop
    have hfits : (Computation.arithmetic (.word word)).Fits op := family_of_divides hop
    exact safeOn hfits _ _
  split
  next hundefined =>
    intro op hop
    obtain ⟨r, hr, hgives⟩ := gives_calculated k l x y op (family_of_divides hop)
    rw [hr.undivided hop (hnone.mpr hundefined)] at hgives
    exact hgives
  next hdefined =>
    have ⟨hb, hfits⟩ := not_or.mp (mt hnone.mp hdefined)
    obtain ⟨_, hr, hdiv⟩ := gives_calculated k l x y .div rfl
    obtain ⟨q, rfl, hq⟩ := hr.divisible rfl hb (not_not.mp hfits)
    obtain ⟨_, hr, hmod⟩ := gives_calculated k l x y .mod rfl
    obtain ⟨m, rfl, hm⟩ := hr.divisible rfl hb (not_not.mp hfits)
    have hq : word.toInt q = a.tdiv b := hq
    have hm : word.toInt m = a.tmod b := hm
    refine ⟨q, m, hdiv, hmod, ?_⟩
    rw [hq, hm]
    exact tdiv_law hb

example : WordKind.i64.div (IntKind.i32.convert .i64 (.intMin 32)) (-1) = .ok 2147483648 := by rfl

end Operator

end Inspector
