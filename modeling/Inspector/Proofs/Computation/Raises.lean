import Inspector.Proofs.Computation.Safe
import Inspector.Proofs.Computation.Texts
import Inspector.Proofs.Held.Transparent

/-!
All errors of computations, each with the operands and the operators that it comes from. The
operands are looked at first, in the order in which they are read. Only if there is nothing wrong
with them does it matter whether the computation knows the operator, and only then what they hold.
-/

namespace Inspector

namespace Value

/-- Integers and floating-point numbers, of whatever kind. A boolean is no number. -/
def IsNumber (v : Value) : Prop := ∃ p, v = .primitive p ∧ p.kind.isNumeric

def IsBoolean (v : Value) : Prop := ∃ b, v = .bool b

def IsReadable (m : Memory) (v : Value) : Prop :=
  v.isNullReference ∨ ∃ s c, v = .string s ∧ s.contentIn m = .ok c

end Value

inductive Reading where
  | number (k : NumKind)
  | boolean
  | text
  | identity

structure Operand where
  reading : Reading
  value : Value

inductive Operand.Rejected (m : Memory) : Operand → EvalError → Prop where
  | number (hv : ¬v.IsNumber) : Rejected m ⟨.number k, v⟩ (.typeMismatch (.scalar v.type k.kind))
  | boolean (hv : ¬v.IsBoolean)
      : Rejected m ⟨.boolean, v⟩ (.typeMismatch (.scalar v.type .boolean))
  | notText (hv : ¬v.IsText) : Rejected m ⟨.text, v⟩ (.typeMismatch (.notString v.type))
  | unread (hs : s.contentIn m = .error reason)
      : Rejected m ⟨.text, .string s⟩ (.valueUnavailable reason)

def Operand.Accepted (m : Memory) (a : Operand) : Prop := ∀ err, ¬a.Rejected m err

namespace Computation

/-- The operand that is read first. It is the second one of a shift. -/
def first (c : Computation) (o : Operands) : Operand :=
  match c with
  | arithmetic k | comparison k => ⟨.number k, o.left⟩
  | bitwise k => ⟨.number (.word k), o.left⟩
  | shift _ _ => ⟨.number (.word .i32), o.right⟩
  | boolean => ⟨.boolean, o.left⟩
  | stringEquality => ⟨.text, o.left⟩
  | referenceEquality => ⟨.identity, o.left⟩

def second (c : Computation) (o : Operands) : Operand :=
  match c with
  | arithmetic k | comparison k => ⟨.number k, o.right⟩
  | bitwise k => ⟨.number (.word k), o.right⟩
  | shift k _ => ⟨.number (.word k), o.left⟩
  | boolean => ⟨.boolean, o.right⟩
  | stringEquality => ⟨.text, o.right⟩
  | referenceEquality => ⟨.identity, o.right⟩

def takesNumbers : Computation → Bool
  | arithmetic _ | comparison _ | bitwise _ | shift _ _ => true
  | boolean | stringEquality | referenceEquality => false

def operators : Computation → List Operator
  | arithmetic _ => [.add, .sub, .mul, .div, .mod]
  | comparison _ => [.eq, .ne, .le, .ge, .lt, .gt]
  | bitwise _ => [.bitAnd, .bitOr, .bitXor]
  | shift _ _ => [.shl, .shr, .shrUnsigned]
  | boolean => [.conditionalAnd, .conditionalOr, .bitAnd, .bitOr, .bitXor, .eq, .ne]
  | stringEquality | referenceEquality => [.eq, .ne]

def usage : Computation → Usage
  | arithmetic _ => .arithmetic
  | comparison _ => .comparison
  | bitwise _ => .bitwise
  | shift _ _ => .shift
  | boolean => .boolean
  | stringEquality | referenceEquality => .equality

/-- Integers without a quotient: the divisor is zero, or the quotient is too large by one. -/
inductive Traps (op : Operator) (o : Operands) : Computation → EvalError → Prop where
  | byZero {y : k.Carrier} (hop : op.divides = true) (hy : o.right.toInt k.toIntKind = .ok y)
      (hzero : k.toInt y = 0)
      : Traps op o (.arithmetic (.word k)) (.invalidOperation .divisionByZero)
  | overflow {x y : k.Carrier} (hop : op.divides = true) (hsigned : k.signed = true)
      (hx : o.left.toInt k.toIntKind = .ok x) (hy : o.right.toInt k.toIntKind = .ok y)
      (hmin : k.toInt x = k.toIntKind.minValue) (hone : k.toInt y = -1)
      : Traps op o (.arithmetic (.word k))
          (.invalidOperation (.overflow op (k.toInt x) (k.toInt y)))

section

variable (c : Computation) (m m₁ : Memory) (op : Operator) (o : Operands)

structure Accepts : Prop where
  first : (c.first o).Accepted m
  second : (c.second o).Accepted (o.memoryOfRight m m₁)

inductive Raises : EvalError → Prop where
  | first (hfirst : (c.first o).Rejected m err) : Raises err
  | second (hfirst : (c.first o).Accepted m)
      (hsecond : (c.second o).Rejected (o.memoryOfRight m m₁) err) : Raises err
  | inapplicable (haccepts : c.Accepts m m₁ o) (hop : op ∉ c.operators)
      : Raises (.invalidOperation (.inapplicable op c.usage))
  | trap (haccepts : c.Accepts m m₁ o) (htrap : c.Traps op o err) : Raises err

structure Judged (res : Except EvalError Primitive) : Prop where
  raises : ∀ err, res = .error err ↔ c.Raises m m₁ op o err
  gives : ∀ p, res = .ok p → p.kind = c.kind
  numbers : c.takesNumbers = true →
    ((∃ cause, res = .error (.typeMismatch cause)) ↔ ¬o.left.IsNumber ∨ ¬o.right.IsNumber)
  booleans : c = .boolean →
    ((∃ cause, res = .error (.typeMismatch cause)) ↔ ¬o.left.IsBoolean ∨ ¬o.right.IsBoolean)
  texts : c = .stringEquality →
    ((∃ err, err.IsUnreadable ∧ res = .error err) ↔
      ¬o.left.IsReadable m ∨ ¬o.right.IsReadable (o.memoryOfRight m m₁))
  identities : c = .referenceEquality → c.Accepts m m₁ o
  inapplicable :
    (∃ usage, res = .error (.invalidOperation (.inapplicable op usage))) ↔
      c.Accepts m m₁ o ∧ op ∉ c.operators
  succeeds : (∃ p, res = .ok p) ↔
    c.Accepts m m₁ o ∧ op ∈ c.operators ∧ ∀ err, ¬c.Traps op o err

end

end Computation

section

variable {v : Value} {m : Memory} {err : EvalError}

theorem Value.readScalar_error_iff {α : Type} {wanted : Kind} {read : Primitive → Option α}
    : v.readScalar wanted read = .error err ↔
        (¬∃ p, v = .primitive p ∧ (read p).isSome) ∧
          .typeMismatch (.scalar v.type wanted) = err := by
  cases v with
  | primitive p =>
    unfold readScalar
    cases hread : read p <;> simp [hread]
  | string | reference | composite => simp [readScalar]

theorem Value.isBoolean_iff : v.IsBoolean ↔ ∃ p, v = .primitive p ∧ p.toBool?.isSome := by
  constructor
  · rintro ⟨b, rfl⟩
    exact ⟨_, rfl, rfl⟩
  · rintro ⟨p, rfl, hp⟩
    cases p with
    | bool b => exact ⟨b, rfl⟩
    | _ => contradiction

namespace Operand

theorem Rejected.isUnreadable {a : Operand} (hrejected : a.Rejected m err)
    : err.IsUnreadable := by
  cases hrejected with
  | number | boolean | notText => apply EvalError.IsUnreadable.mismatch
  | unread => apply EvalError.IsUnreadable.unavailable

theorem accepted_iff {α : Type} {a : Operand} {x : Except EvalError α}
    (hx : ∀ err, x = .error err ↔ a.Rejected m err) : a.Accepted m ↔ ∃ b, x = .ok b := by
  unfold Accepted
  simp only [← hx]
  cases x <;> simp

theorem mismatch_of_number {k : NumKind} (err : EvalError)
    (hrejected : (Operand.mk (.number k) v).Rejected m err)
    : ∃ cause, .typeMismatch cause = err := by
  cases hrejected
  exact ⟨_, rfl⟩

theorem rejected_number_iff {k : NumKind}
    : k.read v = .error err ↔ (Operand.mk (.number k) v).Rejected m err := by
  have hread : k.read v = .error err ↔
      ¬v.IsNumber ∧ .typeMismatch (.scalar v.type k.kind) = err := by
    cases k with
    | word k =>
      refine Value.readScalar_error_iff.trans ?_
      simp only [Primitive.isSome_toInt?]
      rfl
    | float k =>
      refine Value.readScalar_error_iff.trans ?_
      simp only [Primitive.isSome_toFloat?]
      rfl
  rw [hread]
  constructor
  · rintro ⟨hv, rfl⟩
    exact .number hv
  · intro hrejected
    cases hrejected with
    | number hv => exact ⟨hv, rfl⟩

theorem accepted_number_iff {k : NumKind}
    : (Operand.mk (.number k) v).Accepted m ↔ v.IsNumber := by
  constructor
  · exact fun haccepted => Classical.byContradiction fun hv => haccepted _ (.number hv)
  · intro hv err hrejected
    cases hrejected
    contradiction

theorem mismatch_of_boolean (err : EvalError)
    (hrejected : (Operand.mk .boolean v).Rejected m err) : ∃ cause, .typeMismatch cause = err := by
  cases hrejected
  exact ⟨_, rfl⟩

theorem rejected_boolean_iff
    : v.toBool = .error err ↔ (Operand.mk .boolean v).Rejected m err := by
  unfold Value.toBool
  rw [Value.readScalar_error_iff, ← Value.isBoolean_iff]
  constructor
  · rintro ⟨hv, rfl⟩
    exact .boolean hv
  · intro hrejected
    cases hrejected with
    | boolean hv => exact ⟨hv, rfl⟩

theorem accepted_boolean_iff : (Operand.mk .boolean v).Accepted m ↔ v.IsBoolean := by
  constructor
  · exact fun haccepted => Classical.byContradiction fun hv => haccepted _ (.boolean hv)
  · intro hv err hrejected
    cases hrejected
    contradiction

theorem rejected_text_iff
    : v.textIn m = .error err ↔ (Operand.mk .text v).Rejected m err := by
  constructor
  · intro herr
    by_cases hv : v.IsText
    · cases hv with
      | string s =>
        cases hs : s.contentIn m with
        | ok c =>
          rw [Value.textIn_of_ok hs] at herr
          contradiction
        | error reason =>
          rw [Value.textIn_of_error hs] at herr
          cases herr
          exact .unread hs
      | null ha type =>
        rw [Value.textIn_null ha] at herr
        contradiction
    · rw [Value.textIn_of_not_isText hv] at herr
      cases herr
      exact .notText hv
  · intro herr
    cases herr with
    | notText hv => exact Value.textIn_of_not_isText hv m
    | unread hs => exact Value.textIn_of_error hs

theorem accepted_text_iff : (Operand.mk .text v).Accepted m ↔ v.IsReadable m := by
  rw [accepted_iff fun _ => rejected_text_iff]
  constructor
  · rintro ⟨t, ht⟩
    by_cases hv : v.IsText
    · cases hv with
      | null ha type => exact .inl ha
      | string s =>
        cases hs : s.contentIn m with
        | ok c => exact .inr ⟨s, c, rfl, hs⟩
        | error reason =>
          rw [Value.textIn_of_error hs] at ht
          contradiction
    · rw [Value.textIn_of_not_isText hv] at ht
      contradiction
  · rintro (hnull | ⟨s, c, rfl, hs⟩)
    · exact ⟨none, if_pos hnull⟩
    · exact ⟨some c, Value.textIn_of_ok hs⟩

theorem rejected_identity_iff
    : (.ok v : Except EvalError Value) = .error err ↔
        (Operand.mk .identity v).Rejected m err := by
  constructor <;> exact (nomatch ·)

end Operand

end

def Computation.Knows (c : Computation) (op : Operator) (r : Except EvalError α) : Prop :=
  ∀ err, r = .error err ↔
    op ∉ c.operators ∧ .invalidOperation (.inapplicable op c.usage) = err

namespace Operator

open Inspector.Computation (Knows)

variable (op : Operator)

theorem knows_arithmetic (k : FloatKind) (x y : k.Carrier)
    : Knows (.arithmetic (.float k)) op (op.arithmetic (.float k) x y) := by
  intro err
  cases op <;> simp [arithmetic, NumKind.div, NumKind.rem, inapplicable, Computation.operators,
    Computation.usage]

theorem knows_compare (k : NumKind) (x y : k.Carrier)
    : Knows (.comparison k) op (op.compare k x y) := by
  intro err
  cases op <;> simp [compare, inapplicable, Computation.operators, Computation.usage]

theorem knows_bitwise (k : WordKind) (x y : k.Carrier)
    : Knows (.bitwise k) op (op.bitwise k x y) := by
  intro err
  cases op <;> simp [bitwise, inapplicable, Computation.operators, Computation.usage]

theorem knows_shift (k : WordKind) (mask : Nat) (x : k.Carrier) (count : Nat)
    : Knows (.shift k mask) op (op.shift k x count) := by
  intro err
  cases op <;> simp [shift, inapplicable, Computation.operators, Computation.usage]

theorem knows_boolean (x y : Bool) : Knows .boolean op (op.boolean x y) := by
  intro err
  cases op <;> simp [boolean, inapplicable, Computation.operators, Computation.usage]

theorem knows_equality {c : Computation} (hc : c = .stringEquality ∨ c = .referenceEquality)
    (equal : Bool) : Knows c op (op.equality equal) := by
  intro err
  obtain rfl | rfl := hc <;> cases op <;>
    simp [equality, inapplicable, Computation.operators, Computation.usage]

end Operator

namespace Computation

variable {c : Computation} {m m₁ : Memory} {op : Operator} {o : Operands} {err : EvalError}

theorem mem_operators_of_traps (htrap : c.Traps op o err) : op ∈ c.operators := by
  cases htrap <;> cases op <;> first | contradiction | simp [operators]

theorem arithmetic_error_iff {k : WordKind} {x y : k.Carrier}
    (hx : o.left.toInt k.toIntKind = .ok x) (hy : o.right.toInt k.toIntKind = .ok y)
    : op.arithmetic (.word k) x y = .error err ↔
        op ∉ (arithmetic (.word k)).operators ∧
            .invalidOperation (.inapplicable op .arithmetic) = err ∨
          Traps op o (.arithmetic (.word k)) err := by
  by_cases hop : op.family = .arithmetic
  · rw [or_iff_right (by cases op <;> simp [Operator.family, operators] at hop ⊢)]
    have hcalculated := Operator.calculated hop k x y
    constructor
    · intro herr
      rw [herr] at hcalculated
      cases hcalculated with
      | byZero hdivides hzero => exact .byZero hdivides hy hzero
      | overflow hdivides _ hover =>
        obtain ⟨hsigned, hmin, hone⟩ := WordKind.not_holds_quotient_iff.mp hover
        exact .overflow hdivides hsigned hx hy hmin hone
    · intro htrap
      cases htrap with
      | byZero hdivides hy' hzero =>
        cases hy.symm.trans hy'
        rw [hcalculated.undivided hdivides (.inl hzero), if_pos hzero]
      | overflow hdivides hsigned hx' hy' hmin hone =>
        cases hx.symm.trans hx'
        cases hy.symm.trans hy'
        have hover := WordKind.not_holds_quotient_iff.mpr ⟨hsigned, hmin, hone⟩
        rw [hcalculated.undivided hdivides (.inr hover), if_neg (by rw [hone]; decide)]
  · have hunknown : op ∉ (arithmetic (.word k)).operators := by
      cases op <;> simp [Operator.family, operators] at hop ⊢
    rw [or_iff_left fun htrap => hunknown (mem_operators_of_traps htrap)]
    cases op <;> simp [Operator.family, operators] at hop ⊢ <;>
      simp [Operator.arithmetic, Operator.inapplicable]

theorem operands_error_iff {α β γ : Type} {x : Except EvalError α} {y : Except EvalError β}
    {f : α → β → Except EvalError γ} {g : γ → Primitive}
    : (do return g (← f (← x) (← y))) = .error err ↔
        x = .error err ∨ (∃ a, x = .ok a) ∧ y = .error err ∨
          ∃ a b, x = .ok a ∧ y = .ok b ∧ f a b = .error err := by
  cases x with
  | error e => simp [bind, Except.bind]
  | ok a =>
    cases y with
    | error e => simp [bind, Except.bind]
    | ok b =>
      rw [Operator.operands_read rfl rfl]
      cases hf : f a b <;> simp [hf, Except.map]

theorem raises_iff {α β γ : Type} {x : Except EvalError α} {y : Except EvalError β}
    {f : α → β → Except EvalError γ} {g : γ → Primitive}
    (hfirst : ∀ err, x = .error err ↔ (c.first o).Rejected m err)
    (hsecond : ∀ err, y = .error err ↔ (c.second o).Rejected (o.memoryOfRight m m₁) err)
    (hf : ∀ a b, x = .ok a → y = .ok b → ∀ err, f a b = .error err ↔
      op ∉ c.operators ∧ .invalidOperation (.inapplicable op c.usage) = err ∨ c.Traps op o err)
    : (do return g (← f (← x) (← y))) = .error err ↔ c.Raises m m₁ op o err := by
  rw [operands_error_iff]
  constructor
  · rintro (hx | ⟨hx, hy⟩ | ⟨a, b, hx, hy, herr⟩)
    · exact .first ((hfirst err).mp hx)
    · exact .second ((Operand.accepted_iff hfirst).mpr hx) ((hsecond err).mp hy)
    · have haccepts : c.Accepts m m₁ o :=
        ⟨(Operand.accepted_iff hfirst).mpr ⟨a, hx⟩, (Operand.accepted_iff hsecond).mpr ⟨b, hy⟩⟩
      obtain ⟨hop, rfl⟩ | htrap := (hf a b hx hy err).mp herr
      · exact .inapplicable haccepts hop
      · exact .trap haccepts htrap
  · intro hraises
    have hread (haccepts : c.Accepts m m₁ o) : ∃ a b, x = .ok a ∧ y = .ok b := by
      obtain ⟨a, hx⟩ := (Operand.accepted_iff hfirst).mp haccepts.first
      obtain ⟨b, hy⟩ := (Operand.accepted_iff hsecond).mp haccepts.second
      exact ⟨a, b, hx, hy⟩
    cases hraises with
    | first hrejected => exact .inl ((hfirst err).mpr hrejected)
    | second haccepted hrejected =>
      exact .inr (.inl ⟨(Operand.accepted_iff hfirst).mp haccepted, (hsecond err).mpr hrejected⟩)
    | inapplicable haccepts hop =>
      obtain ⟨a, b, hx, hy⟩ := hread haccepts
      exact .inr (.inr ⟨a, b, hx, hy, (hf a b hx hy _).mpr (.inl ⟨hop, rfl⟩)⟩)
    | trap haccepts htrap =>
      obtain ⟨a, b, hx, hy⟩ := hread haccepts
      exact .inr (.inr ⟨a, b, hx, hy, (hf a b hx hy err).mpr (.inr htrap)⟩)

theorem Knows.raises_iff {α β γ : Type} {x : Except EvalError α} {y : Except EvalError β}
    {f : α → β → Except EvalError γ} {g : γ → Primitive} (hknows : ∀ a b, c.Knows op (f a b))
    (hc : ∀ k, c ≠ .arithmetic (.word k))
    (hfirst : ∀ err, x = .error err ↔ (c.first o).Rejected m err)
    (hsecond : ∀ err, y = .error err ↔ (c.second o).Rejected (o.memoryOfRight m m₁) err)
    (err : EvalError)
    : (do return g (← f (← x) (← y))) = .error err ↔ c.Raises m m₁ op o err := by
  apply Computation.raises_iff hfirst hsecond
  intro a b _ _ err
  have huntrapped : ¬c.Traps op o err := by
    intro htrap
    cases htrap <;> exact hc _ rfl
  rw [hknows a b err, or_iff_left huntrapped]

theorem raises_operand_iff {P : EvalError → Prop} (hP : ∀ err, P err → err.IsUnreadable)
    (hfirst : ∀ err, (c.first o).Rejected m err → P err)
    (hsecond : ∀ err, (c.second o).Rejected (o.memoryOfRight m m₁) err → P err)
    : (∃ err, P err ∧ c.Raises m m₁ op o err) ↔
        ¬(c.first o).Accepted m ∨ ¬(c.second o).Accepted (o.memoryOfRight m m₁) := by
  constructor
  · rintro ⟨err, herr, hraises⟩
    cases hraises with
    | first hrejected => exact .inl fun haccepted => haccepted _ hrejected
    | second _ hrejected => exact .inr fun haccepted => haccepted _ hrejected
    | inapplicable => cases hP _ herr
    | trap _ htrap => cases htrap <;> cases hP _ herr
  · intro hnot
    by_cases haccepted : (c.first o).Accepted m
    · have hnot := hnot.resolve_left (not_not_intro haccepted)
      obtain ⟨err, hrejected⟩ := Classical.not_forall_not.mp hnot
      exact ⟨err, hsecond err hrejected, .second haccepted hrejected⟩
    · obtain ⟨err, hrejected⟩ := Classical.not_forall_not.mp haccepted
      exact ⟨err, hfirst err hrejected, .first hrejected⟩

theorem raises_mismatch_iff
    (hfirst : ∀ err, (c.first o).Rejected m err → ∃ cause, .typeMismatch cause = err)
    (hsecond : ∀ err, (c.second o).Rejected (o.memoryOfRight m m₁) err →
      ∃ cause, .typeMismatch cause = err)
    : (∃ cause, c.Raises m m₁ op o (.typeMismatch cause)) ↔
        ¬(c.first o).Accepted m ∨ ¬(c.second o).Accepted (o.memoryOfRight m m₁) := by
  have hmismatch (err : EvalError) (herr : ∃ cause, .typeMismatch cause = err)
      : err.IsUnreadable := by
    obtain ⟨cause, rfl⟩ := herr
    exact .mismatch cause
  rw [← raises_operand_iff hmismatch hfirst hsecond]
  constructor
  · rintro ⟨cause, hraises⟩
    exact ⟨_, ⟨cause, rfl⟩, hraises⟩
  · rintro ⟨_, ⟨cause, rfl⟩, hraises⟩
    exact ⟨cause, hraises⟩

theorem raises_inapplicable_iff
    : (∃ usage, c.Raises m m₁ op o (.invalidOperation (.inapplicable op usage))) ↔
        c.Accepts m m₁ o ∧ op ∉ c.operators := by
  constructor
  · rintro ⟨usage, hraises⟩
    cases hraises with
    | first hrejected | second _ hrejected => cases hrejected.isUnreadable
    | inapplicable haccepts hop => exact ⟨haccepts, hop⟩
    | trap _ htrap => contradiction
  · rintro ⟨haccepts, hop⟩
    exact ⟨_, .inapplicable haccepts hop⟩

theorem not_raises_iff
    : (∀ err, ¬c.Raises m m₁ op o err) ↔
        c.Accepts m m₁ o ∧ op ∈ c.operators ∧ ∀ err, ¬c.Traps op o err := by
  constructor
  · intro hnone
    have hfirst : (c.first o).Accepted m := fun err h => hnone err (.first h)
    have hsecond : (c.second o).Accepted (o.memoryOfRight m m₁) := fun err h =>
      hnone err (.second hfirst h)
    have haccepts : c.Accepts m m₁ o := ⟨hfirst, hsecond⟩
    refine ⟨haccepts, ?_, fun err h => hnone err (.trap haccepts h)⟩
    exact Classical.byContradiction fun hop => hnone _ (.inapplicable haccepts hop)
  · rintro ⟨haccepts, hop, huntrapped⟩ err hraises
    cases hraises with
    | first hrejected => exact haccepts.first err hrejected
    | second _ hrejected => exact haccepts.second err hrejected
    | inapplicable _ hop' => contradiction
    | trap _ htrap => exact huntrapped err htrap

theorem judged_of_raises {res : Except EvalError Primitive}
    (hraises : ∀ err, res = .error err ↔ c.Raises m m₁ op o err)
    (hgives : ∀ p, res = .ok p → p.kind = c.kind) : c.Judged m m₁ op o res where
  raises := hraises
  gives := hgives
  numbers hc := by
    simp only [hraises]
    cases c with
    | arithmetic k | comparison k | bitwise k =>
      rw [raises_mismatch_iff Operand.mismatch_of_number Operand.mismatch_of_number]
      exact or_congr (not_congr Operand.accepted_number_iff)
        (not_congr Operand.accepted_number_iff)
    | shift k mask =>
      rw [raises_mismatch_iff Operand.mismatch_of_number Operand.mismatch_of_number, or_comm]
      exact or_congr (not_congr Operand.accepted_number_iff)
        (not_congr Operand.accepted_number_iff)
    | _ => contradiction
  booleans hc := by
    subst hc
    simp only [hraises]
    rw [raises_mismatch_iff Operand.mismatch_of_boolean Operand.mismatch_of_boolean]
    exact or_congr (not_congr Operand.accepted_boolean_iff)
      (not_congr Operand.accepted_boolean_iff)
  texts hc := by
    subst hc
    simp only [hraises]
    rw [raises_operand_iff (fun _ => id) (fun _ => Operand.Rejected.isUnreadable)
      (fun _ => Operand.Rejected.isUnreadable)]
    exact or_congr (not_congr Operand.accepted_text_iff) (not_congr Operand.accepted_text_iff)
  identities hc := by
    subst hc
    constructor <;> exact fun _ hrejected => nomatch hrejected
  inapplicable := by
    simp only [hraises]
    exact raises_inapplicable_iff
  succeeds := by
    rw [← not_raises_iff]
    simp only [← hraises]
    cases res <;> simp

theorem judged_apply {σ : Type} {host : Host σ} {read : Reader σ} (hreads : host.Reads read)
    (c : Computation) (op : Operator) (o : Operands) (j : Journal) (s : σ)
    : ∃ res o' s', (c.apply op o).run host j s = some ((res, o'), j, s') ∧
        c.Judged (read.memory s) (read.memory (read.after s o.left.question?)) op o res := by
  suffices hraises : ∃ res o' s', (c.apply op o).run host j s = some ((res, o'), j, s') ∧
      ∀ err, res = .error err ↔
        c.Raises (read.memory s) (read.memory (read.after s o.left.question?)) op o err by
    obtain ⟨res, o', s', hrun, hraises⟩ := hraises
    refine ⟨res, o', s', hrun, judged_of_raises hraises fun p hp => ?_⟩
    rw [hp] at hrun
    exact Operator.kind_of_apply hrun
  cases c with
  | arithmetic k =>
    cases k with
    | word k =>
      exact ⟨_, _, _, rfl, fun _ => raises_iff (fun _ => Operand.rejected_number_iff)
        (fun _ => Operand.rejected_number_iff) fun x y hx hy _ => arithmetic_error_iff hx hy⟩
    | float k =>
      exact ⟨_, _, _, rfl, Knows.raises_iff (op.knows_arithmetic k) (by simp)
        (fun _ => Operand.rejected_number_iff) (fun _ => Operand.rejected_number_iff)⟩
  | comparison k =>
    exact ⟨_, _, _, rfl, Knows.raises_iff (op.knows_compare k) (by simp)
      (fun _ => Operand.rejected_number_iff) (fun _ => Operand.rejected_number_iff)⟩
  | bitwise k =>
    exact ⟨_, _, _, rfl, Knows.raises_iff (op.knows_bitwise k) (by simp)
      (fun _ => Operand.rejected_number_iff (k := .word k))
      (fun _ => Operand.rejected_number_iff (k := .word k))⟩
  | shift k mask =>
    exact ⟨_, _, _, rfl, Knows.raises_iff (fun _ x => op.knows_shift k mask x _) (by simp)
      (fun _ => Operand.rejected_number_iff (k := .word .i32))
      (fun _ => Operand.rejected_number_iff (k := .word k))⟩
  | boolean =>
    exact ⟨_, _, _, rfl, Knows.raises_iff op.knows_boolean (by simp)
      (fun _ => Operand.rejected_boolean_iff) (fun _ => Operand.rejected_boolean_iff)⟩
  | stringEquality =>
    obtain ⟨o', s', hrun⟩ := Operator.run_onTexts hreads o j s
    exact ⟨_, o', s', hrun op, Knows.raises_iff (fun _ _ => op.knows_equality (.inl rfl) _)
      (by simp) (fun _ => Operand.rejected_text_iff) (fun _ => Operand.rejected_text_iff)⟩
  | referenceEquality =>
    have hknows (l r : Value) := op.knows_equality (.inr rfl) (l.isIdentical r)
    exact ⟨_, _, _, rfl, Knows.raises_iff (x := .ok o.left) (y := .ok o.right) hknows (by simp)
      (fun _ => Operand.rejected_identity_iff) (fun _ => Operand.rejected_identity_iff)⟩

theorem judged_apply_unread
    : let d : Debuggee := .ofTables [(⟨16⟩, "x")] []
      let o : Operands :=
        .pair (.string (.remote .attached ⟨16⟩ none)) (.string (.remote .attached ⟨24⟩ none))
      (World.host d .bare).Reads (World.reader d) ∧
        ∃ o' w', (stringEquality.apply .add o).run (World.host d .bare) {} (World.new ⟨1⟩ {}) =
          some ((.error (.valueUnavailable (.noString ⟨24⟩)), o'), {}, w') := by
  intro d o
  have hreads := World.host_reads d .bare
  obtain ⟨res, o', w', hrun, hjudged⟩ :=
    judged_apply hreads stringEquality .add o {} (World.new ⟨1⟩ {})
  have hleft : (stringEquality.first o).Accepted (d.memory (World.new ⟨1⟩ {}).trace) :=
    (Operand.accepted_iff fun _ => Operand.rejected_text_iff).mpr ⟨some "x", rfl⟩
  have hres := (hjudged.raises _).mpr (.second hleft (.unread rfl))
  rw [hres] at hrun
  exact ⟨hreads, o', w', hrun⟩

end Computation

end Inspector
