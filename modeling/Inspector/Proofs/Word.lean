import Inspector.Computation.Apply

/-!
Words as integers: which integers a kind holds, what is left in it of any other, and when a quotient
of two words is one that it holds.
-/

namespace Inspector

namespace IntKind

def Holds (k : IntKind) (v : Int) : Prop := k.minValue ≤ v ∧ v ≤ k.maxValue

instance (k : IntKind) (v : Int) : Decidable (k.Holds v) := inferInstanceAs (Decidable (_ ∧ _))

theorem Holds.mono {k l : IntKind} {v : Int} (hmin : l.minValue ≤ k.minValue)
    (hmax : k.maxValue ≤ l.maxValue) (hv : k.Holds v) : l.Holds v :=
  ⟨Int.le_trans hmin hv.1, Int.le_trans hv.2 hmax⟩

theorem toInt_of_signed {k : IntKind} (hk : k.signed = true) (x : BitVec k.width)
    : k.toInt x = x.toInt := by
  unfold toInt
  rw [if_pos hk]

theorem toInt_of_unsigned {k : IntKind} (hk : k.signed = false) (x : BitVec k.width)
    : k.toInt x = x.toNat := by
  unfold toInt
  rw [hk]
  rfl

theorem holds_toInt (k : IntKind) (x : BitVec k.width) : k.Holds (k.toInt x) := by
  unfold Holds
  cases hk : k.signed with
  | true =>
    have hmin : k.minValue = -2 ^ (k.width - 1) := by
      cases k <;> first | contradiction | rfl
    have hmax : k.maxValue = 2 ^ (k.width - 1) - 1 := by
      cases k <;> first | contradiction | rfl
    have hleast := x.le_toInt
    have hgreatest := x.toInt_lt
    rw [toInt_of_signed hk, hmin, hmax]
    omega
  | false =>
    have hmin : k.minValue = 0 := by
      cases k <;> first | contradiction | rfl
    have hmax : k.maxValue = 2 ^ k.width - 1 := by
      cases k <;> first | contradiction | rfl
    have hgreatest : (x.toNat : Int) < 2 ^ k.width := by exact_mod_cast x.isLt
    rw [toInt_of_unsigned hk, hmin, hmax]
    omega

theorem toInt_eq_zero_iff (k : IntKind) (x : BitVec k.width) : k.toInt x = 0 ↔ x = 0 := by
  cases hk : k.signed with
  | true =>
    rw [toInt_of_signed hk, ← BitVec.toInt_inj]
    simp
  | false =>
    rw [toInt_of_unsigned hk, ← BitVec.toNat_inj]
    simp

@[simp]
theorem ofInt_toInt (k : IntKind) (x : BitVec k.width) : k.ofInt (k.toInt x) = x := by
  unfold ofInt
  cases hk : k.signed with
  | true => rw [toInt_of_signed hk, BitVec.ofInt_toInt]
  | false => rw [toInt_of_unsigned hk, BitVec.ofInt_natCast, BitVec.ofNat_toNat, BitVec.setWidth_eq]

/-! Sums, differences and products are computed before or after the bits are cut off. -/

theorem ofInt_add (k : IntKind) (a b : Int) : k.ofInt (a + b) = k.ofInt a + k.ofInt b :=
  BitVec.ofInt_add a b

theorem ofInt_sub (k : IntKind) (a b : Int) : k.ofInt (a - b) = k.ofInt a - k.ofInt b := by
  unfold ofInt
  rw [Int.sub_eq_add_neg, BitVec.ofInt_add, BitVec.ofInt_neg, ← BitVec.sub_eq_add_neg]

theorem ofInt_mul (k : IntKind) (a b : Int) : k.ofInt (a * b) = k.ofInt a * k.ofInt b :=
  BitVec.ofInt_mul a b

end IntKind

namespace WordKind

variable {k : WordKind} {x y : k.Carrier}

theorem holds_toInt (k : WordKind) (x : k.Carrier) : k.toIntKind.Holds (k.toInt x) :=
  k.toIntKind.holds_toInt x

theorem toInt_eq_zero_iff (k : WordKind) (x : k.Carrier) : k.toInt x = 0 ↔ x = 0 :=
  k.toIntKind.toInt_eq_zero_iff x

theorem ofInt_toInt (k : WordKind) (x : k.Carrier) : k.toIntKind.ofInt (k.toInt x) = x :=
  k.toIntKind.ofInt_toInt x

theorem toInt_inj : k.toInt x = k.toInt y ↔ x = y := by
  constructor
  · intro heq
    rw [← k.ofInt_toInt x, heq, k.ofInt_toInt]
  · rintro rfl
    rfl

theorem lt_eq (k : WordKind) (x y : k.Carrier) : k.lt x y = decide (k.toInt x < k.toInt y) := by
  unfold lt toInt
  cases hk : k.signed with
  | true =>
    rw [IntKind.toInt_of_signed hk, IntKind.toInt_of_signed hk, if_pos rfl]
    rfl
  | false =>
    rw [IntKind.toInt_of_unsigned hk, IntKind.toInt_of_unsigned hk]
    simp [BitVec.ult]

theorem le_eq (k : WordKind) (x y : k.Carrier) : k.le x y = decide (k.toInt x ≤ k.toInt y) := by
  unfold le toInt
  cases hk : k.signed with
  | true =>
    rw [IntKind.toInt_of_signed hk, IntKind.toInt_of_signed hk, if_pos rfl]
    rfl
  | false =>
    rw [IntKind.toInt_of_unsigned hk, IntKind.toInt_of_unsigned hk]
    simp [BitVec.ule]

theorem toInt_intMin (hk : k.signed = true) : k.toInt (.intMin _) = k.toIntKind.minValue := by
  cases k <;> first | contradiction | rfl

theorem toInt_allOnes (hk : k.signed = true) : k.toInt (.allOnes _) = -1 := by
  cases k <;> first | contradiction | rfl

theorem toInt_quotient (hfits : k.quotientOverflows x y = false)
    : k.toInt (if k.signed then x.sdiv y else x.udiv y) = (k.toInt x).tdiv (k.toInt y) := by
  unfold toInt
  cases hk : k.signed with
  | true =>
    rw [if_pos rfl]
    simp only [IntKind.toInt_of_signed hk]
    apply BitVec.toInt_sdiv_of_ne_or_ne
    rw [BitVec.neg_one_eq_allOnes]
    by_cases hx : x = .intMin _
    · right
      rintro rfl
      simp [quotientOverflows, hk, hx] at hfits
    · exact .inl hx
  | false =>
    simp only [IntKind.toInt_of_unsigned hk]
    exact Int.ofNat_tdiv _ _

theorem toInt_remainder
    : k.toInt (if k.signed then x.srem y else x.umod y) = (k.toInt x).tmod (k.toInt y) := by
  unfold toInt
  cases hk : k.signed with
  | true =>
    rw [if_pos rfl]
    simp only [IntKind.toInt_of_signed hk]
    apply BitVec.toInt_srem
  | false =>
    simp only [IntKind.toInt_of_unsigned hk]
    exact Int.ofNat_tmod _ _

theorem holds_quotient (hfits : k.quotientOverflows x y = false)
    : k.toIntKind.Holds ((k.toInt x).tdiv (k.toInt y)) := by
  rw [← toInt_quotient hfits]
  apply holds_toInt

theorem quotientOverflows_iff
    : k.quotientOverflows x y = true ↔ ¬k.toIntKind.Holds ((k.toInt x).tdiv (k.toInt y)) := by
  cases hover : k.quotientOverflows x y with
  | false => simp [holds_quotient hover]
  | true =>
    simp only [quotientOverflows, Bool.and_eq_true, beq_iff_eq] at hover
    obtain ⟨⟨hk, rfl⟩, rfl⟩ := hover
    -- Two of the words are signed, and each has one such quotient.
    cases k with
    | i32 | i64 => decide
    | u32 | u64 => contradiction

theorem not_holds_quotient_iff
    : ¬k.toIntKind.Holds ((k.toInt x).tdiv (k.toInt y))
        ↔ k.signed = true ∧ k.toInt x = k.toIntKind.minValue ∧ k.toInt y = -1 := by
  rw [← quotientOverflows_iff]
  unfold quotientOverflows
  rw [Bool.and_eq_true_iff, Bool.and_eq_true_iff, beq_iff_eq, beq_iff_eq, and_assoc]
  refine and_congr_right fun hk => ?_
  rw [← toInt_intMin hk, ← toInt_allOnes hk, toInt_inj, toInt_inj]

end WordKind

end Inspector
