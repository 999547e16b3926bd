import Inspector.Proofs.Computation
import Inspector.Proofs.Computation.Errors
import Inspector.Proofs.Word

/-!
Bound computations on whatever values there are. An operator that was bound is one that its
computation knows. A count is below the width of the word that it shifts. A quotient that does not
exist is reported, and all other integers are those of the operator, or what is left of them in a
word.
-/

namespace Inspector

/-- The tree is at fault and not its values. A stated error may say as much in its own words. -/
def EvalError.isMisuse : EvalError → Bool
  | notCompiled | invalidOperation (.inapplicable ..) | invalidOperation (.stated _) => true
  | _ => false

theorem EvalError.IsUnreadable.isMisuse {err : EvalError} (herr : err.IsUnreadable)
    : err.isMisuse = false := by
  cases herr <;> rfl

theorem WordKind.and_shiftMask (k : WordKind) (n : Nat) : n &&& k.shiftMask = n % k.width := by
  cases k with
  | i32 | u32 => exact Nat.and_two_pow_sub_one_eq_mod n 5
  | i64 | u64 => exact Nat.and_two_pow_sub_one_eq_mod n 6

namespace Operator

def divides : Operator → Bool
  | div | mod => true
  | _ => false

/-- What an arithmetic operator means. Quotients are rounded towards zero. -/
def onInts : Operator → Int → Int → Int
  | add, x, y => x + y
  | sub, x, y => x - y
  | mul, x, y => x * y
  | mod, x, y => x.tmod y
  | _, x, y => x.tdiv y

inductive Calculated (op : Operator) (k : WordKind) (x y : k.Carrier)
    : Except EvalError k.Carrier → Prop where
  | wrapped (hop : op.divides = false)
      : Calculated op k x y (.ok (k.toIntKind.ofInt (op.onInts (k.toInt x) (k.toInt y))))
  | byZero (hop : op.divides = true) (hy : k.toInt y = 0)
      : Calculated op k x y (.error (.invalidOperation .divisionByZero))
  | overflow (hop : op.divides = true) (hy : k.toInt y ≠ 0)
      (hover : ¬k.toIntKind.Holds ((k.toInt x).tdiv (k.toInt y)))
      : Calculated op k x y (.error (.invalidOperation (.overflow op (k.toInt x) (k.toInt y))))
  | divided (hop : op.divides = true) (hy : k.toInt y ≠ 0)
      (hfits : k.toIntKind.Holds ((k.toInt x).tdiv (k.toInt y)))
      (hz : k.toInt z = op.onInts (k.toInt x) (k.toInt y)) : Calculated op k x y (.ok z)

structure SafeOn (op : Operator) (c : Computation) (v w : Value) : Prop where
  calculates : ∀ k x y, c = .arithmetic (.word k) →
    v.toInt k.toIntKind = .ok x → w.toInt k.toIntKind = .ok y →
      ∃ r, op.Calculated k x y r ∧
        c.apply op (.pair v w) = .done (r.map (.int k.toIntKind), .pair v w)
  shifts : ∀ k mask count x, c = .shift k mask →
    w.toInt .i32 = .ok count → v.toInt k.toIntKind = .ok x →
      ∃ n < k.width, n = count.toNat % k.width ∧
        c.apply op (.pair v w) = .done ((op.shift k x n).map (.int k.toIntKind), .pair v w)

end Operator

def Computation.Fits (op : Operator) : Computation → Prop
  | arithmetic _ => op.family = .arithmetic
  | comparison _ => op.family = .relational
  | bitwise _ => op.family = .logical
  | shift k mask => op.family = .shift ∧ mask = k.shiftMask
  | boolean => op.family = .conditional ∨ op.family = .logical ∨ op.isEquality
  | stringEquality | referenceEquality => op.isEquality

namespace Operator

theorem Binds.fits {op : Operator} {left right : Kind} {b : Binding}
    (hbinds : op.Binds left right b) : b.computation.Fits op := by
  cases hbinds with
  | shift hop => exact ⟨hop, rfl⟩
  | arithmetic hop | comparison hop | bitwise hop | boolean hop | stringEquality hop
  | referenceEquality hop => exact hop

section

variable {op : Operator} {k : WordKind} {x y : k.Carrier}

theorem wrapped {z : k.Carrier} (hop : op.divides = false)
    (hz : k.toIntKind.ofInt (op.onInts (k.toInt x) (k.toInt y)) = z)
    : op.Calculated k x y (.ok z) := by
  rw [← hz]
  exact .wrapped hop

theorem calculated_guarded {z : k.Carrier} (hop : op.divides = true)
    (hz : k.quotientOverflows x y = false → k.toInt z = op.onInts (k.toInt x) (k.toInt y))
    : op.Calculated k x y
        (if y = 0 then
          .error (.invalidOperation .divisionByZero)
        else if k.quotientOverflows x y then
          .error (.invalidOperation (.overflow op (k.toInt x) (k.toInt y)))
        else
          .ok z) := by
  split
  next hy => exact .byZero hop ((k.toInt_eq_zero_iff y).mpr hy)
  next hy =>
    have hy := mt (k.toInt_eq_zero_iff y).mp hy
    split
    next hover => exact .overflow hop hy (WordKind.quotientOverflows_iff.mp hover)
    next hfits =>
      have hfits := eq_false_of_ne_true hfits
      exact .divided hop hy (WordKind.holds_quotient hfits) (hz hfits)

theorem calculated (hop : op.family = .arithmetic) (k : WordKind) (x y : k.Carrier)
    : op.Calculated k x y (op.arithmetic (.word k) x y) := by
  cases op with
  | add =>
    apply wrapped rfl
    change k.toIntKind.ofInt (k.toInt x + k.toInt y) = x + y
    rw [IntKind.ofInt_add, k.ofInt_toInt, k.ofInt_toInt]
  | sub =>
    apply wrapped rfl
    change k.toIntKind.ofInt (k.toInt x - k.toInt y) = x - y
    rw [IntKind.ofInt_sub, k.ofInt_toInt, k.ofInt_toInt]
  | mul =>
    apply wrapped rfl
    change k.toIntKind.ofInt (k.toInt x * k.toInt y) = x * y
    rw [IntKind.ofInt_mul, k.ofInt_toInt, k.ofInt_toInt]
  | div => exact calculated_guarded rfl WordKind.toInt_quotient
  | mod => exact calculated_guarded rfl fun _ => WordKind.toInt_remainder
  | _ => contradiction

namespace Calculated

variable {r : Except EvalError k.Carrier}

theorem undivided (hr : op.Calculated k x y r) (hop : op.divides = true)
    (hnone : k.toInt y = 0 ∨ ¬k.toIntKind.Holds ((k.toInt x).tdiv (k.toInt y)))
    : r = .error (.invalidOperation
        (if k.toInt y = 0 then .divisionByZero else .overflow op (k.toInt x) (k.toInt y))) := by
  cases hr with
  | wrapped hop' =>
    rw [hop] at hop'
    contradiction
  | byZero _ hy => rw [if_pos hy]
  | overflow _ hy => rw [if_neg hy]
  | divided _ hy hfits => exact absurd hnone (not_or.mpr ⟨hy, not_not_intro hfits⟩)

theorem divisible (hr : op.Calculated k x y r) (hop : op.divides = true) (hy : k.toInt y ≠ 0)
    (hfits : k.toIntKind.Holds ((k.toInt x).tdiv (k.toInt y)))
    : ∃ z, r = .ok z ∧ k.toInt z = op.onInts (k.toInt x) (k.toInt y) := by
  cases hr with
  | wrapped hop' =>
    rw [hop] at hop'
    contradiction
  | byZero _ hzero => contradiction
  | overflow _ _ hover => contradiction
  | divided _ _ _ hz => exact ⟨_, rfl, hz⟩

theorem isMisuse {err : EvalError} (hr : op.Calculated k x y r) (herr : r = .error err)
    : err.isMisuse = false := by
  cases hr with
  | wrapped | divided => contradiction
  | byZero | overflow =>
    cases herr
    rfl

end Calculated

end

variable {op : Operator} {c : Computation} {v w : Value}

theorem apply_arithmetic {k : WordKind} {x y : k.Carrier} (hv : v.toInt k.toIntKind = .ok x)
    (hw : w.toInt k.toIntKind = .ok y)
    : (Computation.arithmetic (.word k)).apply op (.pair v w) =
        .done ((op.arithmetic (.word k) x y).map (.int k.toIntKind), .pair v w) := by
  have hread : op.onNumbers v w (.word k) = _ :=
    operands_read (f := op.arithmetic (.word k)) (g := (NumKind.word k).wrap) hv hw
  change Dialogue.done (op.onNumbers v w (.word k), Operands.pair v w) = _
  rw [hread]
  rfl

theorem apply_bitwise {k : WordKind} {x y : k.Carrier} (hv : v.toInt k.toIntKind = .ok x)
    (hw : w.toInt k.toIntKind = .ok y)
    : (Computation.bitwise k).apply op (.pair v w) =
        .done ((op.bitwise k x y).map (.int k.toIntKind), .pair v w) := by
  have hread : op.onBits v w k = _ := operands_read (f := op.bitwise k) hv hw
  change Dialogue.done (op.onBits v w k, Operands.pair v w) = _
  rw [hread]

theorem apply_comparison {k : NumKind} {x y : k.Carrier} (hv : k.read v = .ok x)
    (hw : k.read w = .ok y)
    : (Computation.comparison k).apply op (.pair v w) =
        .done ((op.compare k x y).map .bool, .pair v w) := by
  have hread : op.onCompared v w k = _ := operands_read (f := op.compare k) hv hw
  change Dialogue.done (op.onCompared v w k, Operands.pair v w) = _
  rw [hread]

theorem apply_shift {k : WordKind} {mask : Nat} {x : k.Carrier} {count : BitVec 32}
    (hw : w.toInt .i32 = .ok count) (hv : v.toInt k.toIntKind = .ok x)
    : (Computation.shift k mask).apply op (.pair v w) =
        .done ((op.shift k x (count.toNat &&& mask)).map (.int k.toIntKind), .pair v w) := by
  -- The count is read before the word.
  have hread : op.onShifted v w k mask = _ :=
    operands_read (f := fun n x => op.shift k x (BitVec.toNat n &&& mask)) hw hv
  change Dialogue.done (op.onShifted v w k mask, Operands.pair v w) = _
  rw [hread]
  rfl

theorem safeOn (hfits : c.Fits op) (v w : Value) : op.SafeOn c v w where
  calculates k x y hc hv hw := by
    subst hc
    exact ⟨_, calculated hfits k x y, apply_arithmetic hv hw⟩
  shifts k mask count x hc hw hv := by
    subst hc
    refine ⟨count.toNat % k.width, Nat.mod_lt _ k.toIntKind.width_pos, rfl, ?_⟩
    rw [← k.and_shiftMask, ← hfits.2]
    exact apply_shift hw hv

end Operator

theorem Computation.Fails.isMisuse {op : Operator} {c : Computation} {err : EvalError}
    (hfits : c.Fits op) (hfails : c.Fails op err) : err.isMisuse = false := by
  cases hfails with
  | operand herr => exact herr.isMisuse
  | @arithmetic k _ x y herr =>
    cases k with
    | word k => exact (Operator.calculated hfits k x y).isMisuse herr
    | float k =>
      obtain ⟨z, hz⟩ := Operator.arithmetic_float hfits k x y
      cases herr.symm.trans hz
  | @comparison k _ x y herr =>
    obtain ⟨z, hz⟩ := Operator.compare_ok hfits k x y
    cases herr.symm.trans hz
  | @bitwise k _ x y herr =>
    obtain ⟨z, hz⟩ := Operator.bitwise_ok hfits k x y
    cases herr.symm.trans hz
  | @shift k _ mask x count herr =>
    obtain ⟨z, hz⟩ := Operator.shift_ok hfits.1 k x count
    cases herr.symm.trans hz
  | @boolean x y _ herr =>
    obtain ⟨z, hz⟩ := Operator.boolean_ok hfits x y
    cases herr.symm.trans hz
  | @contents equal _ herr | @identities equal _ herr =>
    obtain ⟨z, hz⟩ := Operator.equality_ok hfits equal
    cases herr.symm.trans hz

end Inspector
