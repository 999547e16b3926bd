import Inspector.Proofs.Computation.Safe
import Inspector.Proofs.Computation.Texts
import Inspector.Proofs.Held.Transparent
import Inspector.Proofs.Word.Residue

/-!
The two tests for equality. They are bound alike and differ only in the sense of their answer. Which
operand comes first makes no difference, but that either may be the first to go wrong.
-/

namespace Inspector

namespace Computation

def isFloating : Computation → Bool
  | arithmetic (.float _) | comparison (.float _) => true
  | _ => false

structure Coherent {σ : Type} (host : Host σ) (read : Reader σ) (c : Computation) : Prop where
  negates : ∀ o j s, ∃ (verdict : Except EvalError Bool) (o' : Operands) (s' : σ) (asked : List _),
    (c.apply .eq o).run host.noting j (s, []) =
        some ((verdict.map .bool, o'), j, s', asked) ∧
      (c.apply .ne o).run host.noting j (s, []) =
        some ((verdict.map fun equal => .bool !equal, o'), j, s', asked)
  /-- Unless a string may be another one after it or another string was read. -/
  swaps : read.Steady → c.isFloating = false → ∀ v w j s,
    ∃ (verdict verdict' : Except EvalError Bool) (o o' : Operands) (s₁ s₂ : σ),
      (c.apply .eq (.pair v w)).run host j s = some ((verdict.map .bool, o), j, s₁) ∧
        (c.apply .eq (.pair w v)).run host j s = some ((verdict'.map .bool, o'), j, s₂) ∧
        ∀ equal, verdict = .ok equal ↔ verdict' = .ok equal

end Computation

theorem FloatKind.promote_comm (k l : FloatKind) : k.promote l = l.promote k := by
  cases k <;> cases l <;> rfl

theorem Kind.promote_comm {l r : Kind} {k : NumKind} (hpromote : l.promote r = .ok k)
    : r.promote l = .ok k := by
  cases l <;> cases r <;> first
    | contradiction
    | exact hpromote
    | simpa only [promote, IntKind.promote_comm, FloatKind.promote_comm] using hpromote

namespace Operator

variable {l r : TypeSignature} {b : Binding}

theorem bind_ne (hbind : eq.bind l r = .ok b) : ne.bind l r = .ok b := by
  unfold bind at hbind ⊢
  simp only [family, isEquality] at hbind ⊢
  grind

theorem bind_eq_swapped (hbind : eq.bind l r = .ok b) : eq.bind r l = .ok b := by
  unfold bind at hbind ⊢
  simp only [family, isEquality] at hbind ⊢
  split at hbind
  next hnumeric =>
    obtain ⟨k, hpromote, hk⟩ := except_bind_inv hbind
    rw [Bool.and_comm, if_pos hnumeric, Kind.promote_comm hpromote]
    exact hk
  next => grind

end Operator

def Operator.answer : Operator → Bool → Bool
  | ne, equal => !equal
  | _, equal => equal

def compareBoth {α : Type} (same : α → α → Bool) (x y : Except EvalError α)
    : Except EvalError Bool := do
  return same (← x) (← y)

section

variable {α : Type} {same : α → α → Bool} {x y : Except EvalError α} {op : Operator}

theorem compareBoth_answer {f : α → α → Except EvalError Bool}
    (hf : ∀ a b, f a b = .ok (op.answer (same a b)))
    : (do return Primitive.bool (← f (← x) (← y))) =
        (compareBoth same x y).map fun equal => .bool (op.answer equal) := by
  cases x with
  | error => rfl
  | ok a =>
    cases y with
    | error => rfl
    | ok b =>
      rw [Operator.operands_read rfl rfl, hf]
      rfl

theorem compareBoth_ok_iff {equal : Bool}
    : compareBoth same x y = .ok equal ↔ ∃ a b, x = .ok a ∧ y = .ok b ∧ same a b = equal := by
  cases x <;> cases y <;> simp [compareBoth, bind, Except.bind, pure, Except.pure]

theorem compareBoth_comm (hsame : ∀ a b, same a b = same b a) (equal : Bool)
    : compareBoth same x y = .ok equal ↔ compareBoth same y x = .ok equal := by
  rw [compareBoth_ok_iff, compareBoth_ok_iff]
  constructor
  · rintro ⟨a, b, hx, hy, hequal⟩
    exact ⟨b, a, hy, hx, (hsame b a).trans hequal⟩
  · rintro ⟨a, b, hy, hx, hequal⟩
    exact ⟨b, a, hx, hy, (hsame b a).trans hequal⟩

end

namespace Computation

variable {σ : Type} {host : Host σ} {read : Reader σ} {c : Computation} {op : Operator}

def Tells (c : Computation) (host : Host σ) (o : Operands) (j : Journal) (s : σ)
    (verdict : Except EvalError Bool) (o' : Operands) (s' : σ) : Prop :=
  ∀ op : Operator, op.isEquality = true → (c.apply op o).run host j s =
    some ((verdict.map fun equal => .bool (op.answer equal), o'), j, s')

theorem tells_comparison (k : NumKind) (o : Operands) (j : Journal) (s : σ)
    : (comparison k).Tells host o j s (compareBoth k.beq (k.read o.left) (k.read o.right)) o s := by
  intro op hop
  have hcompare (x y : k.Carrier) : op.compare k x y = .ok (op.answer (k.beq x y)) := by
    cases op <;> first | contradiction | rfl
  rw [← compareBoth_answer hcompare]
  rfl

theorem tells_boolean (o : Operands) (j : Journal) (s : σ)
    : boolean.Tells host o j s (compareBoth (· == ·) o.left.toBool o.right.toBool) o s := by
  intro op hop
  have hboolean (x y : Bool) : op.boolean x y = .ok (op.answer (x == y)) := by
    cases op <;> first | contradiction | rfl
  rw [← compareBoth_answer hboolean]
  rfl

theorem tells_texts (hreads : host.Reads read) (o : Operands) (j : Journal) (s : σ)
    : let m := read.memory s
      let m₁ := read.memory (read.after s o.left.question?)
      ∃ o' s', stringEquality.Tells host o j s
        (compareBoth (· == ·) (o.left.textIn m) (o.right.textIn (o.memoryOfRight m m₁))) o' s' := by
  intro m m₁
  obtain ⟨o', s', hrun⟩ := Operator.run_onTexts hreads o j s
  refine ⟨o', s', ?_⟩
  intro op hop
  have hequality (l r : Option String) : op.equality (l == r) = .ok (op.answer (l == r)) := by
    cases op <;> first | contradiction | rfl
  rw [hrun, ← compareBoth_answer hequality]
  rfl

theorem tells_identities (o : Operands) (j : Journal) (s : σ)
    : referenceEquality.Tells host o j s (.ok (o.left.isIdentical o.right)) o s := by
  intro op hop
  cases op <;> first | contradiction | rfl

theorem exists_tells (hreads : host.Reads read) (hfits : c.Fits .eq) (o : Operands) (j : Journal)
    (s : σ) : ∃ verdict o' s', c.Tells host o j s verdict o' s' := by
  cases c with
  | arithmetic | bitwise => contradiction
  | shift => cases hfits.1
  | comparison k => exact ⟨_, o, s, tells_comparison k o j s⟩
  | boolean => exact ⟨_, o, s, tells_boolean o j s⟩
  | stringEquality =>
    obtain ⟨o', s', htells⟩ := tells_texts hreads o j s
    exact ⟨_, o', s', htells⟩
  | referenceEquality => exact ⟨_, o, s, tells_identities o j s⟩

theorem exists_tells_swapped (hreads : host.Reads read) (hsteady : read.Steady)
    (hfits : c.Fits .eq) (hfloat : c.isFloating = false) (v w : Value) (j : Journal) (s : σ)
    : ∃ verdict verdict' o o' s₁ s₂, c.Tells host (.pair v w) j s verdict o s₁ ∧
        c.Tells host (.pair w v) j s verdict' o' s₂ ∧
        ∀ equal, verdict = .ok equal ↔ verdict' = .ok equal := by
  cases c with
  | arithmetic | bitwise => contradiction
  | shift => cases hfits.1
  | comparison k =>
    refine ⟨_, _, _, _, s, s, tells_comparison k _ j s, tells_comparison k _ j s, ?_⟩
    cases k with
    | word k => exact compareBoth_comm fun x y => decide_eq_decide.mpr eq_comm
    | float k => contradiction
  | boolean =>
    exact ⟨_, _, _, _, s, s, tells_boolean _ j s, tells_boolean _ j s,
      compareBoth_comm fun x y => Bool.beq_comm⟩
  | stringEquality =>
    obtain ⟨o, s₁, htells⟩ := tells_texts hreads (.pair v w) j s
    obtain ⟨o', s₂, htells'⟩ := tells_texts hreads (.pair w v) j s
    simp only [hsteady.memory_after] at htells htells'
    exact ⟨_, _, o, o', s₁, s₂, htells, htells', compareBoth_comm fun l r => Bool.beq_comm⟩
  | referenceEquality =>
    refine ⟨_, _, _, _, s, s, tells_identities _ j s, tells_identities _ j s, fun equal => ?_⟩
    simp only [Operands.left, Operands.right, Value.isIdentical_comm v w]

theorem coherent (hreads : host.Reads read) (hfits : c.Fits .eq) : c.Coherent host read where
  negates o j s := by
    obtain ⟨verdict, o', ⟨s', asked⟩, htells⟩ := exists_tells hreads.noting hfits o j (s, [])
    exact ⟨verdict, o', s', asked, htells .eq rfl, htells .ne rfl⟩
  swaps hsteady hfloat v w j s := by
    obtain ⟨verdict, verdict', o, o', s₁, s₂, htells, htells', hcomm⟩ :=
      exists_tells_swapped hreads hsteady hfits hfloat v w j s
    exact ⟨verdict, verdict', o, o', s₁, s₂, htells .eq rfl, htells' .eq rfl, hcomm⟩

end Computation

theorem Operator.bind_eq_coherent {σ : Type} {host : Host σ} {read : Reader σ}
    {l r : TypeSignature} {b : Binding} (hreads : host.Reads read) (hbind : eq.bind l r = .ok b)
    : ne.bind l r = .ok b ∧ eq.bind r l = .ok b ∧ b.computation.Coherent host read :=
  ⟨bind_ne hbind, bind_eq_swapped hbind,
    Computation.coherent hreads (binds_of_bind hbind).fits⟩

theorem Operator.bind_eq_coherent_strings
    : let d : Debuggee := .ofTables [(⟨16⟩, "x")] []
      let b : Binding := ⟨.stringEquality, .boolean⟩
      (World.host d .bare).Reads (World.reader d) ∧ (World.reader d).Steady ∧
        eq.bind (.of .string) (.of .string) = .ok b ∧
        b.computation.Coherent (World.host d .bare) (World.reader d) := by
  intro d b
  have hreads := World.host_reads d .bare
  have hbind : eq.bind (.of .string) (.of .string) = .ok b := rfl
  obtain ⟨_, _, hcoherent⟩ := bind_eq_coherent hreads hbind
  exact ⟨hreads, World.reader_steady d, hbind, hcoherent⟩

end Inspector
