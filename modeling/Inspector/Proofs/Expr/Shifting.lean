import Inspector.Proofs.Expr.Operands
import Inspector.Proofs.Word.Residue

/-!
Shifts of integers. Of the count, whatever its kind and sign, matters what is left of it modulo the
width of the word. The word is multiplied or divided by that power of two; what is multiplied is cut
off at the upper end, and what is divided is rounded down.
-/

namespace Inspector

namespace IntKind

theorem ofInt_shiftLeft (k : IntKind) (v : Int) (n : Nat)
    : k.ofInt (v * 2 ^ n) = k.ofInt v <<< n := by
  have hpow : k.ofInt (2 ^ n) = BitVec.twoPow k.width n := by
    apply BitVec.eq_of_toNat_eq
    have hcast : (2 ^ n : Int) = ((2 ^ n : Nat) : Int) := by norm_cast
    unfold ofInt
    rw [hcast, BitVec.ofInt_natCast, BitVec.toNat_ofNat, BitVec.toNat_twoPow]
  rw [ofInt_mul, hpow, BitVec.shiftLeft_eq_mul_twoPow]

theorem toInt_widen (k : IntKind) (x : BitVec k.width)
    : k.widen.toInt (k.convert k.widen.toIntKind x) = k.toInt x := by
  have hrange : k.widen.toIntKind.minValue ≤ k.minValue
      ∧ k.maxValue ≤ k.widen.toIntKind.maxValue := by
    cases k <;> decide
  rw [convert_eq]
  apply toInt_ofInt_eq_iff.mpr
  apply (k.holds_toInt x).mono hrange.1 hrange.2

end IntKind

namespace WordKind

theorem widen_toIntKind (k : WordKind) : k.toIntKind.widen = k := by
  cases k <;> rfl

theorem eq_toInt_shiftLeft_iff {k : WordKind} {x : k.Carrier} {n : Nat} {v : Int}
    : v = k.toInt (x <<< n) ↔
        k.toIntKind.Holds v ∧ v ≡ k.toInt x * 2 ^ n [ZMOD 2 ^ k.width] := by
  have hx : k.toIntKind.ofInt (k.toInt x * 2 ^ n) = x <<< n := by
    rw [IntKind.ofInt_shiftLeft, k.ofInt_toInt]
  rw [← hx]
  apply IntKind.eq_toInt_ofInt_iff

theorem toInt_shiftRight (k : WordKind) (x : k.Carrier) (n : Nat)
    : k.toInt (k.shiftRight x n) = k.toInt x / 2 ^ n := by
  have hpow : ((2 ^ n : Nat) : Int) = 2 ^ n := by norm_cast
  unfold shiftRight toInt
  cases hk : k.signed with
  | true =>
    rw [if_pos rfl, IntKind.toInt_of_signed hk, IntKind.toInt_of_signed hk,
      BitVec.toInt_sshiftRight, Int.shiftRight_eq_div_pow, hpow]
  | false =>
    rw [IntKind.toInt_of_unsigned hk, IntKind.toInt_of_unsigned hk]
    change ((BitVec.toNat (x >>> n) : Nat) : Int) = _
    rw [BitVec.toNat_ushiftRight, Nat.shiftRight_eq_div_pow, Int.natCast_ediv, hpow]

theorem shiftRight_zero (k : WordKind) (x : k.Carrier) : k.shiftRight x 0 = x := by
  rw [← toInt_inj, toInt_shiftRight, pow_zero, Int.ediv_one]

theorem shiftRight_add (k : WordKind) (x : k.Carrier) (m n : Nat)
    : k.shiftRight x (m + n) = k.shiftRight (k.shiftRight x m) n := by
  rw [← toInt_inj, toInt_shiftRight, toInt_shiftRight, toInt_shiftRight, pow_add,
    Int.ediv_ediv_of_nonneg]
  apply Int.pow_nonneg
  decide

theorem count_lt (k : WordKind) (v : Int) : (v % k.width).toNat < k.width := by
  obtain hwidth | hwidth := k.width_eq
  · rw [hwidth]
    omega
  · rw [hwidth]
    omega

theorem toNat_count (k : WordKind) (l : IntKind) (y : BitVec l.width)
    : (l.convert .i32 y).toNat % k.width = (l.toInt y % k.width).toNat := by
  have hdvd : (k.width : Int) ∣ ((2 ^ 32 : Nat) : Int) := by
    cases k <;> decide
  have hnonneg : 0 ≤ l.toInt y % ((2 ^ 32 : Nat) : Int) := by
    apply Int.emod_nonneg
    decide
  rw [IntKind.convert_eq]
  unfold IntKind.ofInt
  rw [← Int.toNat_natCast (BitVec.toNat _ % k.width), Int.natCast_emod]
  change (((BitVec.ofInt 32 (l.toInt y)).toNat : Int) % _).toNat = _
  rw [BitVec.toNat_ofInt, Int.toNat_of_nonneg hnonneg, Int.emod_emod_of_dvd _ hdvd]

end WordKind

namespace Operator

/-- One bit at a time: each node shifts by one what the node before it has come to. -/
inductive Steps (op : Operator) (k : WordKind) (x : k.Carrier) : Nat → k.Carrier → Prop where
  | none : Steps op k x 0 x
  | more (hsteps : Steps op k x n y)
      (hone : ∀ l one, IntKind.toInt l one = 1 →
        op.Gives (.int k.toIntKind y) (.int l one) (.of k.kind) (.ok (.int k.toIntKind z)))
      : Steps op k x (n + 1) z

variable {op : Operator}

theorem shift_zero (hop : op.family = .shift) (k : WordKind) (x : k.Carrier)
    : op.shift k x 0 = .ok x := by
  cases op with
  | shl => apply congrArg Except.ok (BitVec.shiftLeft_zero x)
  | shr | shrUnsigned => apply congrArg Except.ok (k.shiftRight_zero x)
  | _ => contradiction

theorem shift_succ (hop : op.family = .shift) (k : WordKind) (x : k.Carrier) (n : Nat)
    : op.shift k x (n + 1) = op.shift k x n >>= fun y => op.shift k y 1 := by
  cases op with
  | shl => apply congrArg Except.ok (BitVec.shiftLeft_add x n 1)
  | shr | shrUnsigned => apply congrArg Except.ok (k.shiftRight_add x n 1)
  | _ => contradiction

theorem gives_counted (hop : op.family = .shift) {k : IntKind} {word : WordKind}
    (hword : k.widen = word) (l : IntKind) (x : BitVec k.width) (y : BitVec l.width)
    : op.Gives (.int k x) (.int l y) (.of word.kind)
        ((op.shift word (k.convert word.toIntKind x) (l.toInt y % word.width).toNat).map
          (.int word.toIntKind)) := by
  subst hword
  rw [← WordKind.toNat_count]
  apply gives_shift k l x y hop

theorem gives_one (hop : op.family = .shift) (k : WordKind) (x : k.Carrier) (l : IntKind)
    {one : BitVec l.width} (hone : l.toInt one = 1)
    : op.Gives (.int k.toIntKind x) (.int l one) (.of k.kind)
        ((op.shift k x 1).map (.int k.toIntKind)) := by
  have hgives := gives_counted hop k.widen_toIntKind l x one
  have hcount : (1 % (k.width : Int)).toNat = 1 := by
    cases k <;> decide
  rw [IntKind.convert_eq, IntKind.ofInt_toInt, hone, hcount] at hgives
  apply hgives

theorem steps_of_shift (hop : op.family = .shift) {k : WordKind} {x z : k.Carrier} {n : Nat}
    (hz : op.shift k x n = .ok z) : op.Steps k x n z := by
  induction n generalizing z with
  | zero =>
    rw [shift_zero hop] at hz
    cases hz
    apply Steps.none
  | succ n ih =>
    rw [shift_succ hop] at hz
    obtain ⟨y, hy, hz⟩ := except_bind_inv hz
    apply Steps.more (ih hy)
    intro l one hone
    have hgives := gives_one hop k y l hone
    rw [hz] at hgives
    apply hgives

theorem gives_scaled (k l : IntKind) (x : BitVec k.width) (y : BitVec l.width)
    : let word := k.widen
      let n := (l.toInt y % word.width).toNat
      word.toInt (k.convert word.toIntKind x) = k.toInt x ∧ n < word.width
        ∧ (∃ z, shl.Gives (.int k x) (.int l y) (.of word.kind) (.ok (.int word.toIntKind z))
          ∧ ∀ v, v = word.toInt z ↔
            word.toIntKind.Holds v ∧ v ≡ k.toInt x * 2 ^ n [ZMOD 2 ^ word.width])
        ∧ (∃ z, shr.Gives (.int k x) (.int l y) (.of word.kind) (.ok (.int word.toIntKind z))
          ∧ shrUnsigned.Gives (.int k x) (.int l y) (.of word.kind) (.ok (.int word.toIntKind z))
          ∧ word.toInt z = k.toInt x / 2 ^ n)
        ∧ ∀ op : Operator, op.family = .shift → ∃ z,
          op.Steps word (k.convert word.toIntKind x) n z
            ∧ ∀ (m : IntKind) (y' : BitVec m.width), m.toInt y' ≡ l.toInt y [ZMOD word.width] →
              op.Gives (.int k x) (.int m y') (.of word.kind) (.ok (.int word.toIntKind z)) := by
  intro word n
  have hvalue : word.toInt (k.convert word.toIntKind x) = k.toInt x := k.toInt_widen x
  refine ⟨hvalue, word.count_lt _, ⟨_, gives_counted rfl rfl l x y, ?_⟩,
    ⟨_, gives_counted rfl rfl l x y, gives_counted rfl rfl l x y, ?_⟩, ?_⟩
  · intro v
    rw [WordKind.eq_toInt_shiftLeft_iff, hvalue]
  · rw [WordKind.toInt_shiftRight, hvalue]
  · intro op hop
    obtain ⟨z, hz⟩ := shift_ok hop word (k.convert word.toIntKind x) n
    refine ⟨z, steps_of_shift hop hz, ?_⟩
    intro m y' hmod
    have hword : k.widen = word := rfl
    have hgives := gives_counted hop hword m x y'
    rw [hmod, hz] at hgives
    apply hgives

theorem gives_scaled_minus_one
    : ∃ z, shl.Steps .i32 1 31 z
        ∧ shl.Gives (.int .u8 1) (.int .i8 (-1)) (.of (.int .i32)) (.ok (.int .i32 z))
        ∧ shl.Gives (.int .u8 1) (.int .u64 63) (.of (.int .i32)) (.ok (.int .i32 z)) := by
  obtain ⟨_, _, _, _, hcounts⟩ := gives_scaled .u8 .i8 1 (-1)
  obtain ⟨z, hsteps, hgives⟩ := hcounts .shl rfl
  exact ⟨z, hsteps, hgives .i8 (-1) (by decide), hgives .u64 63 (by decide)⟩

example : shl.shift (IntKind.widen .u8) (IntKind.convert .u8 .i32 1)
    (IntKind.toInt .i8 (-1) % (IntKind.widen .u8).width).toNat = .ok (.intMin 32) := by rfl

end Operator

end Inspector
