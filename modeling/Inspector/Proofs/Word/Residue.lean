import Inspector.Proofs.Word
import Mathlib.Data.Int.Bitwise
import Mathlib.Data.Int.ModEq

/-!
Words as residues. The word that is left of an integer stands for the one integer of its kind that
is congruent to it modulo a power of two. Sums, products and bitwise operations are the same before
and after, and a conversion of words does nothing else.
-/

namespace Inspector

namespace IntKind

variable {k : IntKind} {u v : Int}

theorem maxValue_eq (k : IntKind) : k.maxValue = k.minValue + 2 ^ k.width - 1 := by
  cases k <;> rfl

theorem toInt_ofInt_modEq (k : IntKind) (v : Int) : k.toInt (k.ofInt v) ≡ v [ZMOD 2 ^ k.width] := by
  unfold ofInt Int.ModEq
  have hwidth : ((2 ^ k.width : Nat) : Int) = 2 ^ k.width := by norm_cast
  cases hk : k.signed with
  | true =>
    rw [toInt_of_signed hk, BitVec.toInt_ofInt, ← hwidth, Int.bmod_emod]
  | false =>
    have hpos : (0 : Int) < 2 ^ k.width := Int.pow_pos (by decide)
    rw [toInt_of_unsigned hk, BitVec.toNat_ofInt, hwidth,
      Int.toNat_of_nonneg (Int.emod_nonneg v hpos.ne'), Int.emod_emod_of_dvd v dvd_rfl]

theorem Holds.eq_of_modEq (hu : k.Holds u) (hv : k.Holds v) (hmod : u ≡ v [ZMOD 2 ^ k.width])
    : u = v := by
  obtain ⟨huleast, hugreatest⟩ := hu
  obtain ⟨hvleast, hvgreatest⟩ := hv
  rw [maxValue_eq] at hugreatest hvgreatest
  have hoffset := hmod.sub_right k.minValue
  unfold Int.ModEq at hoffset
  rw [Int.emod_eq_of_lt, Int.emod_eq_of_lt] at hoffset
  all_goals omega

theorem eq_toInt_ofInt_iff
    : v = k.toInt (k.ofInt u) ↔ k.Holds v ∧ v ≡ u [ZMOD 2 ^ k.width] := by
  have hholds := k.holds_toInt (k.ofInt u)
  have hmod := k.toInt_ofInt_modEq u
  constructor
  · rintro rfl
    exact ⟨hholds, hmod⟩
  · intro ⟨hv, hvmod⟩
    exact hv.eq_of_modEq hholds (hvmod.trans hmod.symm)

theorem toInt_ofInt_eq_iff : k.toInt (k.ofInt v) = v ↔ k.Holds v := by
  constructor
  · intro heq
    rw [← heq]
    apply holds_toInt
  · intro hv
    exact (eq_toInt_ofInt_iff.mpr ⟨hv, Int.ModEq.refl v⟩).symm

theorem holds_zero (k : IntKind) : k.Holds 0 := by
  have hzero := (k.toInt_eq_zero_iff 0).mpr rfl
  rw [← hzero]
  apply holds_toInt

theorem convert_eq (k j : IntKind) (x : BitVec k.width) : k.convert j x = j.ofInt (k.toInt x) := by
  unfold convert ofInt
  cases hk : k.signed with
  | true =>
    rw [toInt_of_signed hk, if_pos rfl]
    rfl
  | false =>
    rw [toInt_of_unsigned hk, BitVec.ofInt_natCast, BitVec.ofNat_toNat]
    rfl

variable {j l : IntKind}

theorem ofInt_congr (hmod : u ≡ v [ZMOD 2 ^ k.width]) : k.ofInt u = k.ofInt v := by
  have hholds := k.holds_toInt (k.ofInt u)
  have heq : k.toInt (k.ofInt u) = k.toInt (k.ofInt v) :=
    eq_toInt_ofInt_iff.mpr ⟨hholds, (k.toInt_ofInt_modEq u).trans hmod⟩
  rw [← k.ofInt_toInt (k.ofInt u), heq, ofInt_toInt]

theorem convert_convert (hwidth : l.width ≤ j.width) (x : BitVec k.width)
    : j.convert l (k.convert j x) = k.convert l x := by
  have hdvd : (2 : Int) ^ l.width ∣ 2 ^ j.width := pow_dvd_pow 2 hwidth
  rw [convert_eq k j, convert_eq j l, convert_eq k l]
  apply ofInt_congr
  exact (j.toInt_ofInt_modEq (k.toInt x)).of_dvd hdvd

theorem toInt_convert_eq_iff (j : IntKind) (x : BitVec k.width)
    : j.toInt (k.convert j x) = k.toInt x ↔ j.Holds (k.toInt x) := by
  rw [convert_eq]
  apply toInt_ofInt_eq_iff

theorem toInt_convert_convert {x : BitVec k.width} (hj : j.Holds (k.toInt x))
    (hl : l.Holds (k.toInt x)) : l.toInt (j.convert l (k.convert j x)) = k.toInt x := by
  rw [convert_eq j l, (toInt_convert_eq_iff j x).mpr hj]
  exact toInt_ofInt_eq_iff.mpr hl

theorem getLsbD_ofInt (k : IntKind) (v : Int) {i : Nat} (hi : i < k.width)
    : (k.ofInt v).getLsbD i = v.testBit i := by
  unfold ofInt
  cases v with
  | ofNat n =>
    change (BitVec.ofNat k.width n).getLsbD i = n.testBit i
    rw [BitVec.getLsbD_ofNat, decide_eq_true hi, Bool.true_and]
  | negSucc n =>
    rw [BitVec.ofInt_negSucc_eq_not_ofNat, BitVec.getLsbD_not, BitVec.getLsbD_ofNat,
      decide_eq_true hi, Bool.true_and, Bool.true_and]
    rfl

theorem ofInt_land (k : IntKind) (a b : Int) : k.ofInt (a.land b) = k.ofInt a &&& k.ofInt b := by
  apply BitVec.eq_of_getLsbD_eq
  intro i hi
  rw [BitVec.getLsbD_and, getLsbD_ofInt k _ hi, getLsbD_ofInt k _ hi, getLsbD_ofInt k _ hi,
    Int.testBit_land]

theorem ofInt_lor (k : IntKind) (a b : Int) : k.ofInt (a.lor b) = k.ofInt a ||| k.ofInt b := by
  apply BitVec.eq_of_getLsbD_eq
  intro i hi
  rw [BitVec.getLsbD_or, getLsbD_ofInt k _ hi, getLsbD_ofInt k _ hi, getLsbD_ofInt k _ hi,
    Int.testBit_lor]

theorem ofInt_xor (k : IntKind) (a b : Int) : k.ofInt (a.xor b) = k.ofInt a ^^^ k.ofInt b := by
  apply BitVec.eq_of_getLsbD_eq
  intro i hi
  rw [BitVec.getLsbD_xor, getLsbD_ofInt k _ hi, getLsbD_ofInt k _ hi, getLsbD_ofInt k _ hi,
    Int.testBit_lxor]

theorem promote_comm (k l : IntKind) : k.promote l = l.promote k := by
  unfold promote
  simp only [or_comm, Bool.or_comm]

theorem width_le_promote (k l : IntKind) : l.width ≤ (k.promote l).toIntKind.width := by
  cases k <;> cases l <;> decide

theorem convert_eq_zero_iff (k l : IntKind) (y : BitVec l.width)
    : (k.promote l).toInt (l.convert (k.promote l).toIntKind y) = 0 ↔ l.toInt y = 0 := by
  have hdvd : (2 : Int) ^ l.width ∣ 2 ^ (k.promote l).toIntKind.width :=
    pow_dvd_pow 2 (width_le_promote k l)
  rw [convert_eq]
  unfold WordKind.toInt
  constructor
  · intro heq
    have hmod := (k.promote l).toIntKind.toInt_ofInt_modEq (l.toInt y)
    rw [heq] at hmod
    exact (l.holds_toInt y).eq_of_modEq l.holds_zero (hmod.of_dvd hdvd).symm
  · intro heq
    rw [heq, toInt_ofInt_eq_iff]
    apply holds_zero

end IntKind

end Inspector
