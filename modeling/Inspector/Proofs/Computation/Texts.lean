import Inspector.Proofs.Value.Reading

/-!
Comparisons of strings, and of null in their place. The second operand is looked at after the first
one, and only if there is something to compare it with.
-/

namespace Inspector

variable {σ : Type} {host : Host σ} {read : Reader σ} {m : Memory} {s : σ} {o : Operands}

namespace Operands

def keepLeft (m : Memory) (o : Operands) : Operands := o.setLeft (o.left.remember m)

def keepRight (m : Memory) (o : Operands) : Operands := o.setRight (o.right.remember m)

@[simp]
theorem textIn_right_keepLeft (m : Memory) (o : Operands)
    : (o.keepLeft m).right.textIn m = o.right.textIn m := by
  cases o with
  | pair => rfl
  | same => apply Value.textIn_remember

def memoryOfRight (m m₁ : Memory) : Operands → Memory
  | pair _ _ => m₁
  | same _ => m

theorem textIn_right_keepLeft_of_ok {l : Option String} (hleft : o.left.textIn m = .ok l)
    (m₁ : Memory)
    : (o.keepLeft m).right.textIn m₁ = o.right.textIn (o.memoryOfRight m m₁) := by
  cases o with
  | pair => rfl
  | same v =>
    have hv : v.textIn m = .ok l := hleft
    exact (Value.textIn_remember_of_ok hv m₁).trans hv.symm

theorem isText_right_keepLeft (m : Memory) (hright : o.right.IsText)
    : (o.keepLeft m).right.IsText := by
  cases o with
  | pair => exact hright
  | same => exact hright.remember m

theorem isNullReference_right_keepLeft (m : Memory) (o : Operands)
    : (o.keepLeft m).right.isNullReference = o.right.isNullReference := by
  cases o with
  | pair => rfl
  | same => apply Value.isNullReference_remember

theorem keepLeft_of_error {err : EvalError} (hleft : o.left.textIn m = .error err)
    : o.keepLeft m = o := by
  unfold keepLeft
  rw [Value.remember_of_textIn_error hleft]
  cases o <;> rfl

theorem run_contentsEqual_failed (hreads : host.Reads read) {err : EvalError}
    (hleft : o.left.textIn (read.memory s) = .error err) (j : Journal)
    : o.contentsEqual.run host j s =
        some ((.error err, o), j, read.after s o.left.question?) := by
  have hkept := keepLeft_of_error hleft
  unfold keepLeft at hkept
  unfold contentsEqual
  rw [Dialogue.run_bind, Value.run_operandContent_of_reads hreads, hleft, Option.bind_some]
  simp only [hkept]
  rfl

theorem run_contentsEqual_reached (hreads : host.Reads read) {l : Option String}
    (hleft : o.left.textIn (read.memory s) = .ok l) (j : Journal)
    : let o₁ := o.keepLeft (read.memory s)
      let s₁ := read.after s o.left.question?
      let r := o₁.right.textIn (read.memory s₁)
      o.contentsEqual.run host j s =
        some ((r.map fun r => l == r, o₁.keepRight (read.memory s₁)), j,
          read.after s₁ o₁.right.question?) := by
  intro o₁ s₁ r
  unfold contentsEqual
  rw [Dialogue.run_bind, Value.run_operandContent_of_reads hreads, hleft, Option.bind_some,
    Dialogue.run_bind, Value.run_operandContent_of_reads hreads]
  change Option.bind (some ((r, _), j, _)) _ = _
  cases r <;> rfl

/--
What a comparison of two texts comes to. The first one is read from one memory, if it has to be
read, and the second one from another, which is the same unless reading changes it.
-/
structure Compared (m m₁ : Memory) (o : Operands) (verdict : Except EvalError Bool)
    (o' : Operands) (asked : List Question) : Prop where
  /-- Null is like nothing but null, so it is not the empty string. -/
  equal : verdict = .ok true ↔
    o.left.isNullReference ∧ o.right.isNullReference ∨
      ∃ c, o.left.textIn m = .ok (some c) ∧ (o.keepLeft m).right.textIn m₁ = .ok (some c)
  fails : ∀ err, verdict = .error err ↔
    ∃ reason, err = .valueUnavailable reason ∧
      (o.left.textIn m = .error err ∨
        (∃ t, o.left.textIn m = .ok t) ∧ (o.keepLeft m).right.textIn m₁ = .error err)
  stops : ∀ err, o.left.textIn m = .error err → o' = o ∧ asked = o.left.question?.toList
  asks : ∀ t, o.left.textIn m = .ok t →
    o' = (o.keepLeft m).keepRight m₁ ∧
      asked = o.left.question?.toList ++ (o.keepLeft m).right.question?.toList

theorem compared_failed {err : EvalError} (hleft : o.left.IsText)
    (herr : o.left.textIn m = .error err) (m₁ : Memory)
    : o.Compared m m₁ (.error err) o o.left.question?.toList where
  equal := by simp [hleft.isNullReference_iff m, herr]
  fails := by
    obtain ⟨reason, rfl⟩ := hleft.unavailable herr
    intro err
    simp only [herr, Except.error.injEq]
    grind
  stops _ _ := ⟨rfl, rfl⟩
  asks t ht := by
    rw [herr] at ht
    contradiction

theorem compared_reached {l : Option String} (hleft : o.left.IsText) (hright : o.right.IsText)
    (hl : o.left.textIn m = .ok l) (m₁ : Memory)
    : o.Compared m m₁ (((o.keepLeft m).right.textIn m₁).map fun r => l == r)
        ((o.keepLeft m).keepRight m₁)
        (o.left.question?.toList ++ (o.keepLeft m).right.question?.toList) where
  equal := by
    rw [hleft.isNullReference_iff m, ← isNullReference_right_keepLeft m,
      (isText_right_keepLeft m hright).isNullReference_iff m₁, hl]
    cases (o.keepLeft m).right.textIn m₁ with
    | error => simp [Except.map]
    | ok r =>
      simp only [Except.map, Except.ok.injEq, beq_iff_eq]
      cases l <;> cases r <;> simp [eq_comm]
  fails := by
    intro err
    cases hr : (o.keepLeft m).right.textIn m₁ with
    | error err' =>
      obtain ⟨reason, rfl⟩ := (isText_right_keepLeft m hright).unavailable hr
      simp only [hl, Except.map, Except.error.injEq]
      grind
    | ok r => simp [hl, Except.map]
  stops err herr := by
    rw [hl] at herr
    contradiction
  asks _ _ := ⟨rfl, rfl⟩

end Operands

namespace Operator

def onTexts (op : Operator) (l r : Except EvalError (Option String)) : Except EvalError Primitive :=
  do return .bool (← op.equality ((← l) == (← r)))

@[simp]
theorem onTexts_error (op : Operator) (err : EvalError) (r : Except EvalError (Option String))
    : op.onTexts (.error err) r = .error err := rfl

@[simp]
theorem onTexts_ok_error (op : Operator) (l : Option String) (err : EvalError)
    : op.onTexts (.ok l) (.error err) = .error err := rfl

@[simp]
theorem eq_onTexts (l r : Option String)
    : eq.onTexts (.ok l) (.ok r) = .ok (.bool (l == r)) := rfl

@[simp]
theorem ne_onTexts (l r : Option String)
    : ne.onTexts (.ok l) (.ok r) = .ok (.bool !(l == r)) := rfl

theorem onTexts_ok (op : Operator) (l : Option String) (r : Except EvalError (Option String))
    : (do return .bool (← op.equality (← r.map fun r => l == r))) = op.onTexts (.ok l) r := by
  cases r <;> rfl

theorem run_onContents {verdict : Except EvalError Bool} {o' : Operands} {j : Journal}
    {s' : σ} (hrun : o.contentsEqual.run host j s = some ((verdict, o'), j, s')) (op : Operator)
    : (Computation.stringEquality.apply op o).run host j s =
        some ((do return .bool (← op.equality (← verdict)), o'), j, s') := by
  unfold Computation.apply onContents
  rw [Dialogue.run_bind, hrun]
  rfl

theorem run_onTexts (hreads : host.Reads read) (o : Operands) (j : Journal) (s : σ)
    : let m := read.memory s
      let m₁ := read.memory (read.after s o.left.question?)
      ∃ o' s', ∀ op, (Computation.stringEquality.apply op o).run host j s =
        some ((op.onTexts (o.left.textIn m) (o.right.textIn (o.memoryOfRight m m₁)), o'), j, s')
    := by
  intro m m₁
  cases hl : o.left.textIn m with
  | error err =>
    exact ⟨_, _, fun op => run_onContents (Operands.run_contentsEqual_failed hreads hl j) op⟩
  | ok l =>
    have hrun := Operands.run_contentsEqual_reached hreads hl j
    dsimp only at hrun
    rw [Operands.textIn_right_keepLeft_of_ok hl] at hrun
    have hall op := run_onContents hrun op
    simp only [onTexts_ok] at hall
    exact ⟨_, _, hall⟩

end Operator

end Inspector
