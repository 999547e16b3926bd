import Inspector.Proofs.Word.Residue
import Inspector.Value

/-!
Integers read from values. Whatever the two kinds are, an integer is read as the one integer of the
wanted kind that is congruent to it modulo the size of that kind. So a detour over a kind that is
not smaller than the wanted one changes nothing, and one over a kind that holds everything leads
back to the start.
-/

namespace Inspector

namespace Value

theorem toInt_int (k j : IntKind) (x : BitVec k.width)
    : (primitive (.int k x)).toInt j = .ok (k.convert j x) := rfl

theorem toInt_reduces (k j : IntKind) (x : BitVec k.width)
    : ∃ y, (primitive (.int k x)).toInt j = .ok y
        ∧ (∀ v, v = j.toInt y ↔ j.Holds v ∧ v ≡ k.toInt x [ZMOD 2 ^ j.width])
        ∧ (j.toInt y = k.toInt x ↔ j.Holds (k.toInt x))
        ∧ (∀ l : IntKind, l.width ≤ j.width →
            (primitive (.int j y)).toInt l = (primitive (.int k x)).toInt l)
        ∧ ((∀ v, k.Holds v → j.Holds v) →
            (primitive (.int j y)).toInt k = .ok x
              ∧ ∀ l : IntKind, (∀ v, k.Holds v → l.Holds v) →
                ∃ z, (primitive (.int j y)).toInt l = .ok z ∧ l.toInt z = k.toInt x) := by
  have hx := k.holds_toInt x
  refine ⟨k.convert j x, toInt_int k j x, ?_, IntKind.toInt_convert_eq_iff j x, ?_, ?_⟩
  · intro v
    rw [IntKind.convert_eq]
    exact IntKind.eq_toInt_ofInt_iff
  · intro l hwidth
    rw [toInt_int, toInt_int, IntKind.convert_convert hwidth]
  · intro hj
    have hback : j.convert k (k.convert j x) = x := by
      rw [← k.ofInt_toInt (j.convert k (k.convert j x)),
        IntKind.toInt_convert_convert (hj _ hx) hx, IntKind.ofInt_toInt]
    refine ⟨?_, ?_⟩
    · rw [toInt_int, hback]
    · intro l hl
      exact ⟨_, toInt_int j l _, IntKind.toInt_convert_convert (hj _ hx) (hl _ hx)⟩

theorem toInt_reduces_sign
    : let v := primitive (.int .i8 (-1))
      ∃ y, v.toInt .i64 = .ok y ∧ IntKind.i64.toInt y = -1
        ∧ (primitive (.int .i64 y)).toInt .u8 = .ok 255
        ∧ (primitive (.int .i64 y)).toInt .i8 = .ok (-1) := by
  intro v
  have hrange : ∀ u, IntKind.i8.Holds u → IntKind.i64.Holds u := by
    intro u hu
    exact hu.mono (by decide) (by decide)
  obtain ⟨y, hread, _, hvalue, hdetour, hback⟩ := toInt_reduces .i8 .i64 (-1)
  refine ⟨y, hread, hvalue.mpr (by decide), ?_, (hback hrange).1⟩
  rw [hdetour .u8 (by decide)]
  rfl

end Value

end Inspector
