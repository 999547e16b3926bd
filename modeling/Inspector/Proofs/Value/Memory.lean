import Inspector.Computation.Apply

/-!
Strings that remember what was read, against a memory in which everything is looked up afresh. The
answers are the same, and what is remembered is not asked for again.
-/

namespace Inspector

abbrev Memory := Source → Address → Except Unavailable String

namespace StringValue

/-- The content as the memory has it. What the string remembers does not count. -/
def lookUp (m : Memory) : StringValue → Except Unavailable String
  | synthetic c => .ok c
  | remote source a _ => m source a

def remember (m : Memory) (s : StringValue) : StringValue :=
  match s.lookUp m with
  | .ok c => s.materialize c
  | .error _ => s

def forget : StringValue → StringValue
  | synthetic c => synthetic c
  | remote source a _ => remote source a none

def question? : StringValue → Option Question
  | remote source a none => some (.readString source a)
  | remote _ _ (some _) | synthetic _ => none

def Faithful (m : Memory) (s : StringValue) : Prop := ∀ c, s.content? = some c → s.lookUp m = .ok c

theorem isSome_question? (s : StringValue) : s.question?.isSome = !s.isMaterialized := by
  unfold question?
  split <;> rfl

theorem isMaterialized_materialize (s : StringValue) (c : String)
    : (s.materialize c).isMaterialized = true := by
  unfold materialize
  split <;> rfl

@[simp]
theorem lookUp_forget (m : Memory) (s : StringValue) : s.forget.lookUp m = s.lookUp m := by
  cases s <;> rfl

theorem remember_of_error {m : Memory} {s : StringValue} {reason : Unavailable}
    (hs : s.lookUp m = .error reason) : s.remember m = s := by
  unfold remember
  rw [hs]

theorem remember_of_ok {m : Memory} {s : StringValue} {c : String} (hs : s.lookUp m = .ok c)
    : s.remember m = s.materialize c := by
  unfold remember
  rw [hs]

theorem remember_of_materialized {m : Memory} {s : StringValue} (hs : s.isMaterialized)
    : s.remember m = s := by
  unfold remember
  split
  · cases s with
    | synthetic => rfl
    | remote source a content =>
      cases content with
      | none => contradiction
      | some c => rfl
  · rfl

theorem remember_cases (m : Memory) (s : StringValue)
    : s.remember m = s ∨
        ∃ source a c, s = remote source a none ∧ m source a = .ok c ∧
          s.remember m = remote source a (some c) := by
  cases hs : s.isMaterialized with
  | true => exact .inl (remember_of_materialized hs)
  | false =>
    cases s with
    | synthetic => contradiction
    | remote source a content =>
      cases content with
      | some c => contradiction
      | none =>
        cases hm : m source a with
        | ok c => exact .inr ⟨source, a, c, rfl, hm, remember_of_ok hm⟩
        | error reason => exact .inl (remember_of_error hm)

@[simp]
theorem forget_remember (m : Memory) (s : StringValue) : (s.remember m).forget = s.forget := by
  obtain hs | ⟨source, a, c, rfl, _, hs⟩ := s.remember_cases m <;> rw [hs]
  rfl

@[simp]
theorem lookUp_remember (m : Memory) (s : StringValue) : (s.remember m).lookUp m = s.lookUp m := by
  rw [← lookUp_forget, forget_remember, lookUp_forget]

@[simp]
theorem remember_remember (m : Memory) (s : StringValue)
    : (s.remember m).remember m = s.remember m := by
  obtain hs | ⟨source, a, c, rfl, _, hs⟩ := s.remember_cases m
  · rw [hs, hs]
  · rw [hs]
    exact remember_of_materialized rfl

theorem Faithful.remember {m : Memory} {s : StringValue} (hs : s.Faithful m)
    : (s.remember m).Faithful m := by
  intro c hc
  obtain hs' | ⟨source, a, c', rfl, hm, hs'⟩ := s.remember_cases m
  · rw [hs'] at hc ⊢
    exact hs c hc
  · rw [hs'] at hc ⊢
    cases hc
    exact hm

end StringValue

namespace Value

def string? : Value → Option StringValue
  | string s => some s
  | primitive _ | reference .. | composite .. => none

def lookUp (m : Memory) : Value → Except EvalError String
  | string s => (s.lookUp m).mapError .valueUnavailable
  | v => .error (.typeMismatch (.notString v.type))

def operandLookUp (m : Memory) (v : Value) : Except EvalError (Option String) :=
  if v.isNullReference then .ok none else (v.lookUp m).map some

def remember (m : Memory) : Value → Value
  | string s => string (s.remember m)
  | v => v

def forget : Value → Value
  | string s => string s.forget
  | v => v

def question? (v : Value) : Option Question := v.string?.bind StringValue.question?

def Faithful (m : Memory) (v : Value) : Prop := ∀ s, v = string s → s.Faithful m

variable {m : Memory} {v w : Value}

theorem Faithful.remember (hv : v.Faithful m) : (v.remember m).Faithful m := by
  intro s hs
  cases v with
  | string s' =>
    cases hs
    exact (hv s' rfl).remember
  | _ => contradiction

@[simp]
theorem remember_remember (m : Memory) (v : Value)
    : (v.remember m).remember m = v.remember m := by
  cases v <;> simp [Value.remember]

@[simp]
theorem forget_remember (m : Memory) (v : Value) : (v.remember m).forget = v.forget := by
  cases v <;> simp [Value.remember, forget]

@[simp]
theorem lookUp_forget (m : Memory) (v : Value) : v.forget.lookUp m = v.lookUp m := by
  cases v <;> simp [forget, lookUp]

@[simp]
theorem operandLookUp_forget (m : Memory) (v : Value)
    : v.forget.operandLookUp m = v.operandLookUp m := by
  unfold operandLookUp
  rw [lookUp_forget]
  cases v <;> rfl

@[simp]
theorem readScalar_forget {α : Type} (wanted : Kind) (read : Primitive → Option α) (v : Value)
    : v.forget.readScalar wanted read = v.readScalar wanted read := by
  cases v <;> rfl

@[simp]
theorem read_forget (k : NumKind) (v : Value) : k.read v.forget = k.read v := by
  cases k <;> apply readScalar_forget

@[simp]
theorem identity_forget (v : Value) : v.forget.identity = v.identity := by
  cases v with
  | string s => cases s <;> rfl
  | _ => rfl

theorem isIdentical_forget (v w : Value) : v.forget.isIdentical w.forget = v.isIdentical w := by
  simp [isIdentical]

end Value

def Computation.lookUp (m : Memory) (c : Computation) (op : Operator) (left right : Value)
    : Except EvalError Primitive :=
  match c with
  | arithmetic k => op.onNumbers left right k
  | comparison k => op.onCompared left right k
  | bitwise k => op.onBits left right k
  | shift k mask => op.onShifted left right k mask
  | boolean => op.onBooleans left right
  | stringEquality => do
    let l ← left.operandLookUp m
    let r ← right.operandLookUp m
    return .bool (← op.equality (l == r))
  | referenceEquality => op.onIdentities left right

@[simp]
theorem Computation.lookUp_forget (m : Memory) (c : Computation) (op : Operator) (v w : Value)
    : c.lookUp m op v.forget w.forget = c.lookUp m op v w := by
  cases c with
  | arithmetic k => simp only [lookUp, Operator.onNumbers, Value.read_forget]
  | comparison k => simp only [lookUp, Operator.onCompared, Value.read_forget]
  | bitwise k => simp only [lookUp, Operator.onBits, Value.toInt, Value.readScalar_forget]
  | shift k mask => simp only [lookUp, Operator.onShifted, Value.toInt, Value.readScalar_forget]
  | boolean => simp only [lookUp, Operator.onBooleans, Value.toBool, Value.readScalar_forget]
  | stringEquality => simp only [lookUp, Value.operandLookUp_forget]
  | referenceEquality => simp only [lookUp, Operator.onIdentities, Value.isIdentical_forget]

end Inspector
