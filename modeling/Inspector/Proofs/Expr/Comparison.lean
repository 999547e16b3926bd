import Inspector.Proofs.Expr.Operands
import Inspector.Proofs.Word.Residue
import Inspector.World

/-!
Comparisons of integers. Each pair of kinds is compared in a word of its own, and still there is one
order: integers are compared as what they are. Only next to an unsigned word of 64 bits does a
negative integer count as what its bits stand for there, which equality survives and order does not.
-/

namespace Inspector

namespace IntKind

variable {k : IntKind} {v : Int}

/-- The integer that an operand counts as next to one of this kind. -/
def beside (l : IntKind) (v : Int) : Int :=
  if l = u64 ∧ v < 0 then v + 2 ^ 64 else v

theorem beside_of_ne {l : IntKind} (hl : l ≠ u64) (v : Int) : l.beside v = v := by
  unfold beside
  rw [if_neg]
  rintro ⟨heq, _⟩
  apply hl heq

theorem beside_u64 (v : Int) : u64.beside v = if v < 0 then v + 2 ^ 64 else v := by
  unfold beside
  simp only [true_and]

theorem Holds.lt_two_pow (hv : k.Holds v) (hk : k ≠ u64) : -2 ^ 63 ≤ v ∧ v < 2 ^ 63 := by
  obtain ⟨hleast, hgreatest⟩ := hv
  have hrange : -2 ^ 63 ≤ k.minValue ∧ k.maxValue < 2 ^ 63 := by
    cases k <;> first | contradiction | decide
  omega

theorem holds_u64_iff : u64.Holds v ↔ 0 ≤ v ∧ v < 2 ^ 64 := by
  unfold Holds
  have hmin : u64.minValue = 0 := rfl
  have hmax : u64.maxValue = 2 ^ 64 - 1 := rfl
  rw [hmin, hmax]
  omega

theorem promote_u64 (k : IntKind) : k.promote u64 = .u64 := by
  cases k <;> rfl

theorem Holds.promote (hv : k.Holds v) {l : IntKind} (hl : l ≠ u64)
    : (k.promote l).toIntKind.Holds v := by
  have hrange : (k.promote l).toIntKind.minValue ≤ k.minValue
      ∧ k.maxValue ≤ (k.promote l).toIntKind.maxValue := by
    cases k <;> cases l <;> first | contradiction | decide
  apply hv.mono hrange.1 hrange.2

theorem Holds.beside (hv : k.Holds v) (l : IntKind)
    : (k.promote l).toIntKind.Holds (l.beside v) := by
  by_cases hl : l = u64
  · subst hl
    rw [promote_u64]
    apply holds_u64_iff.mpr
    rw [beside_u64]
    by_cases hk : k = u64
    · subst hk
      have hrange := holds_u64_iff.mp hv
      split <;> omega
    · have hrange := hv.lt_two_pow hk
      split <;> omega
  · rw [beside_of_ne hl]
    apply hv.promote hl

theorem beside_modEq (l : IntKind) (v : Int)
    : l.beside v ≡ v [ZMOD 2 ^ (k.promote l).toIntKind.width] := by
  by_cases hl : l = u64
  · subst hl
    rw [promote_u64, beside_u64]
    change _ % 2 ^ 64 = _ % 2 ^ 64
    split <;> omega
  · rw [beside_of_ne hl]

theorem toInt_promote (k l : IntKind) (x : BitVec k.width)
    : (k.promote l).toInt (k.convert (k.promote l).toIntKind x) = l.beside (k.toInt x) := by
  rw [convert_eq]
  symm
  apply eq_toInt_ofInt_iff.mpr
  constructor
  · apply (k.holds_toInt x).beside
  · apply beside_modEq

theorem beside_eq_iff {l : IntKind} {u : Int} (hu : k.Holds u) (hv : l.Holds v)
    : l.beside u = k.beside v ↔ u ≡ v [ZMOD 2 ^ 64] := by
  unfold Int.ModEq
  by_cases hk : k = u64
  · subst hk
    have hu := holds_u64_iff.mp hu
    by_cases hl : l = u64
    · subst hl
      have hv := holds_u64_iff.mp hv
      rw [beside_u64, beside_u64]
      split <;> split <;> omega
    · have hv := hv.lt_two_pow hl
      rw [beside_u64, beside_of_ne hl]
      split <;> omega
  · have hu := hu.lt_two_pow hk
    by_cases hl : l = u64
    · subst hl
      have hv := holds_u64_iff.mp hv
      rw [beside_u64, beside_of_ne hk]
      split <;> omega
    · have hv := hv.lt_two_pow hl
      rw [beside_of_ne hl, beside_of_ne hk]
      omega

end IntKind

structure Integer where
  kind : IntKind
  bits : BitVec kind.width

namespace Integer

def value (a : Integer) : Int := a.kind.toInt a.bits

def primitive (a : Integer) : Primitive := .int a.kind a.bits

def beside (a b : Integer) : Int := b.kind.beside a.value

theorem beside_of_ne (a : Integer) {b : Integer} (hb : b.kind ≠ .u64) : a.beside b = a.value :=
  IntKind.beside_of_ne hb a.value

theorem beside_eq_iff (a b : Integer)
    : a.beside b = b.beside a ↔ a.value ≡ b.value [ZMOD 2 ^ 64] :=
  IntKind.beside_eq_iff (a.kind.holds_toInt a.bits) (b.kind.holds_toInt b.bits)

end Integer

namespace Operator

def relation? : Operator → Option (Int → Int → Bool)
  | eq => some fun a b => a == b
  | ne => some fun a b => a != b
  | le => some fun a b => a ≤ b
  | ge => some fun a b => a ≥ b
  | lt => some fun a b => a < b
  | gt => some fun a b => a > b
  | _ => none

variable {op : Operator} {R : Int → Int → Bool}

theorem compare_eq (hR : op.relation? = some R) (k : WordKind) (x y : k.Carrier)
    : op.compare (.word k) x y = .ok (R (k.toInt x) (k.toInt y)) := by
  have hbeq : decide (x = y) = decide (k.toInt x = k.toInt y) := by
    simp only [WordKind.toInt_inj]
  cases op with
  | eq =>
    cases hR
    apply congrArg Except.ok hbeq
  | ne =>
    cases hR
    apply congrArg (fun b => Except.ok (!b)) hbeq
  | le =>
    cases hR
    apply congrArg Except.ok (k.le_eq x y)
  | ge =>
    cases hR
    apply congrArg Except.ok (k.le_eq y x)
  | lt =>
    cases hR
    apply congrArg Except.ok (k.lt_eq x y)
  | gt =>
    cases hR
    apply congrArg Except.ok (k.lt_eq y x)
  | _ => contradiction

theorem family_of_relation (hR : op.relation? = some R) : op.family = .relational := by
  cases op <;> first | contradiction | rfl

theorem gives_related (hR : op.relation? = some R) (a b : Integer)
    : op.Gives a.primitive b.primitive .boolean (.ok (.bool (R (a.beside b) (b.beside a)))) := by
  have hgives := gives_comparison a.kind b.kind a.bits b.bits (family_of_relation hR)
  rw [compare_eq hR, IntKind.toInt_promote, IntKind.promote_comm, IntKind.toInt_promote] at hgives
  apply hgives

def Holds (op : Operator) (a b : Integer) : Prop :=
  op.Gives a.primitive b.primitive .boolean (.ok (.bool true))

theorem holds_iff (hR : op.relation? = some R) (a b : Integer)
    : op.Holds a b ↔ R (a.beside b) (b.beside a) = true := by
  have hgives := gives_related hR a b
  constructor
  · intro hholds
    have heq := hgives.unique hholds
    simpa using heq
  · intro hrelated
    rw [hrelated] at hgives
    apply hgives

theorem holds_eq_iff (a b : Integer) : eq.Holds a b ↔ a.value ≡ b.value [ZMOD 2 ^ 64] := by
  rw [← Integer.beside_eq_iff, holds_iff rfl]
  apply beq_iff_eq

theorem holds_iff_value (hR : op.relation? = some R) {a b : Integer} (ha : a.kind ≠ .u64)
    (hb : b.kind ≠ .u64) : op.Holds a b ↔ R a.value b.value = true := by
  rw [holds_iff hR, a.beside_of_ne hb, b.beside_of_ne ha]

/-- On these integers all operators go by one order. Its equal members need not be of one kind. -/
structure Orders (D : Integer → Prop) : Prop where
  le_refl : ∀ a, D a → le.Holds a a
  le_trans : ∀ a b c, D a → D b → D c → le.Holds a b → le.Holds b c → le.Holds a c
  le_total : ∀ a b, D a → D b → le.Holds a b ∨ le.Holds b a
  eq_iff : ∀ a b, D a → D b → (eq.Holds a b ↔ le.Holds a b ∧ le.Holds b a)
  lt_iff : ∀ a b, D a → D b → (lt.Holds a b ↔ ¬le.Holds b a)
  ge_iff : ∀ a b, D a → D b → (ge.Holds a b ↔ le.Holds b a)
  gt_iff : ∀ a b, D a → D b → (gt.Holds a b ↔ lt.Holds b a)

structure Equates : Prop where
  eq_refl : ∀ a, eq.Holds a a
  eq_symm : ∀ a b, eq.Holds a b → eq.Holds b a
  eq_trans : ∀ a b c, eq.Holds a b → eq.Holds b c → eq.Holds a c
  ne_iff : ∀ a b, ne.Holds a b ↔ ¬eq.Holds a b
  lt_iff : ∀ a b, lt.Holds a b ↔ gt.Holds b a
  exactly_one : ∀ a b,
    lt.Holds a b ∧ ¬eq.Holds a b ∧ ¬gt.Holds a b
      ∨ ¬lt.Holds a b ∧ eq.Holds a b ∧ ¬gt.Holds a b
      ∨ ¬lt.Holds a b ∧ ¬eq.Holds a b ∧ gt.Holds a b

theorem orders : Orders (fun a => a.kind ≠ .u64) where
  le_refl a ha := by
    rw [holds_iff_value rfl ha ha]
    simp
  le_trans a b c ha hb hc := by
    rw [holds_iff_value rfl ha hb, holds_iff_value rfl hb hc, holds_iff_value rfl ha hc]
    simp only [decide_eq_true_eq]
    apply Int.le_trans
  le_total a b ha hb := by
    rw [holds_iff_value rfl ha hb, holds_iff_value rfl hb ha]
    simp only [decide_eq_true_eq]
    apply Int.le_total
  eq_iff a b ha hb := by
    rw [holds_iff_value rfl ha hb, holds_iff_value rfl ha hb, holds_iff_value rfl hb ha]
    simp only [beq_iff_eq, decide_eq_true_eq]
    omega
  lt_iff a b ha hb := by
    rw [holds_iff_value rfl ha hb, holds_iff_value rfl hb ha]
    simp only [decide_eq_true_eq]
    omega
  ge_iff a b ha hb := by
    rw [holds_iff_value rfl ha hb, holds_iff_value rfl hb ha]
  gt_iff a b ha hb := by
    rw [holds_iff_value rfl ha hb, holds_iff_value rfl hb ha]

theorem equates : Equates where
  eq_refl a := by
    rw [holds_eq_iff]
  eq_symm a b := by
    rw [holds_eq_iff, holds_eq_iff]
    apply Int.ModEq.symm
  eq_trans a b c := by
    rw [holds_eq_iff, holds_eq_iff, holds_eq_iff]
    apply Int.ModEq.trans
  ne_iff a b := by
    rw [holds_iff rfl, holds_iff rfl]
    simp
  lt_iff a b := by
    rw [holds_iff rfl, holds_iff rfl]
  exactly_one a b := by
    rw [holds_iff rfl, holds_iff rfl, holds_iff rfl]
    simp only [beq_iff_eq, decide_eq_true_eq]
    omega

theorem gives_compared
    : (∀ op R (a b : Integer), relation? op = some R →
          op.Gives a.primitive b.primitive .boolean (.ok (.bool (R (a.beside b) (b.beside a)))))
        ∧ Orders (fun a => a.kind ≠ .u64) ∧ Equates :=
  ⟨fun _ _ a b hR => gives_related hR a b, orders, equates⟩

theorem gives_compared_minus_one
    : let minusOne : Integer := ⟨.i8, -1⟩
      lt.Holds minusOne ⟨.u32, 0xFFFFFFFF⟩ ∧ eq.Holds minusOne ⟨.u64, 0xFFFFFFFFFFFFFFFF⟩ :=
  ⟨gives_compared.1 .lt _ _ _ rfl, gives_compared.1 .eq _ _ _ rfl⟩

end Operator

end Inspector
