import Inspector.Proofs.Computation.Errors
import Inspector.Proofs.Value

/-!
What binding promises. An operator that binds fits its computation, and operands that are what
their types say can be read by it. So all that can go wrong is an integer division, or the read of a
string.
-/

namespace Inspector

def Computation.kind : Computation → Kind
  | arithmetic k => k.kind
  | bitwise k | shift k _ => k.kind
  | comparison _ | boolean | stringEquality | referenceEquality => .boolean

theorem except_bind_inv {α β : Type} {x : Except EvalError α} {f : α → Except EvalError β} {b : β}
    (hbind : x >>= f = .ok b) : ∃ a, x = .ok a ∧ f a = .ok b := by
  cases x with
  | ok a => exact ⟨a, rfl, hbind⟩
  | error e => contradiction

namespace Operator

/-- The table of `Operator.bind`: what goes with which operators and kinds. -/
inductive Binds (op : Operator) (left right : Kind) : Binding → Prop where
  | arithmetic (hop : op.family = .arithmetic) (hpromote : left.promote right = .ok k)
      (hleft : left.isNumeric) (hright : right.isNumeric)
      : Binds op left right ⟨.arithmetic k, .of k.kind⟩
  | comparison (hop : op.family = .relational) (hpromote : left.promote right = .ok k)
      (hleft : left.isNumeric) (hright : right.isNumeric)
      : Binds op left right ⟨.comparison k, .boolean⟩
  | bitwise (hop : op.family = .logical) (hleft : left = .int l) (hright : right = .int r)
      : Binds op left right ⟨.bitwise (l.promote r), .of (l.promote r).kind⟩
  | shift (hop : op.family = .shift) (hleft : left = .int l) (hright : right.isIntegral)
      : Binds op left right ⟨.shift l.widen l.widen.shiftMask, .of l.widen.kind⟩
  | boolean (hop : op.family = .conditional ∨ op.family = .logical ∨ op.isEquality)
      (hleft : left = .boolean) (hright : right = .boolean)
      : Binds op left right ⟨.boolean, .boolean⟩
  | stringEquality (hop : op.isEquality) (hleft : left = .string) (hright : right = .string)
      : Binds op left right ⟨.stringEquality, .boolean⟩
  | referenceEquality (hop : op.isEquality) : Binds op left right ⟨.referenceEquality, .boolean⟩

theorem Binds.type_kind {op : Operator} {left right : Kind} {b : Binding}
    (hbinds : op.Binds left right b) : b.type.kind = b.computation.kind := by
  cases hbinds <;> rfl

section

variable {op : Operator} {left right : TypeSignature} {b : Binding}

theorem binds_arithmetic (hop : op.family = .arithmetic) (hbind : op.bind left right = .ok b)
    : op.Binds left.kind right.kind b := by
  unfold bind at hbind
  rw [hop] at hbind
  dsimp only at hbind
  split at hbind
  next hnumeric =>
    have ⟨hleft, hright⟩ := Bool.and_eq_true_iff.mp hnumeric
    obtain ⟨k, hpromote, hk⟩ := except_bind_inv hbind
    cases hk
    exact .arithmetic hop hpromote hleft hright
  next => contradiction

theorem binds_relational (hop : op.family = .relational) (hbind : op.bind left right = .ok b)
    : op.Binds left.kind right.kind b := by
  unfold bind at hbind
  rw [hop] at hbind
  dsimp only at hbind
  split at hbind
  next hnumeric =>
    have ⟨hleft, hright⟩ := Bool.and_eq_true_iff.mp hnumeric
    obtain ⟨k, hpromote, hk⟩ := except_bind_inv hbind
    cases hk
    exact .comparison hop hpromote hleft hright
  next =>
    split at hbind
    next => contradiction
    next hequality =>
      have hequality : op.isEquality := by simpa using hequality
      split at hbind
      next hkinds =>
        cases hbind
        exact .boolean (.inr (.inr hequality)) hkinds.1 hkinds.2
      next =>
        split at hbind
        next hkinds =>
          cases hbind
          exact .stringEquality hequality hkinds.1 hkinds.2
        next =>
          split at hbind
          next =>
            cases hbind
            exact .referenceEquality hequality
          next => contradiction

theorem binds_conditional (hop : op.family = .conditional) (hbind : op.bind left right = .ok b)
    : op.Binds left.kind right.kind b := by
  unfold bind at hbind
  rw [hop] at hbind
  dsimp only at hbind
  split at hbind
  next hkinds =>
    cases hbind
    exact .boolean (.inl hop) hkinds.1 hkinds.2
  next => contradiction

theorem binds_logical (hop : op.family = .logical) (hbind : op.bind left right = .ok b)
    : op.Binds left.kind right.kind b := by
  unfold bind at hbind
  rw [hop] at hbind
  dsimp only at hbind
  split at hbind
  next l r hleft hright =>
    cases hbind
    exact .bitwise hop hleft hright
  next hleft hright =>
    cases hbind
    exact .boolean (.inr (.inl hop)) hleft hright
  next => contradiction

theorem binds_shift (hop : op.family = .shift) (hbind : op.bind left right = .ok b)
    : op.Binds left.kind right.kind b := by
  unfold bind at hbind
  rw [hop] at hbind
  dsimp only at hbind
  split at hbind
  next hright =>
    cases hleft : left.kind with
    | int l =>
      rw [hleft] at hbind
      cases hbind
      rw [← hleft]
      exact .shift hop hleft hright
    | _ =>
      rw [hleft] at hbind
      contradiction
  next => contradiction

theorem binds_of_bind (hbind : op.bind left right = .ok b) : op.Binds left.kind right.kind b := by
  cases hop : op.family with
  | arithmetic => exact binds_arithmetic hop hbind
  | relational => exact binds_relational hop hbind
  | conditional => exact binds_conditional hop hbind
  | logical => exact binds_logical hop hbind
  | shift => exact binds_shift hop hbind

theorem bind_of_kinds {left' right' : TypeSignature} (hleft : left'.kind = left.kind)
    (hright : right'.kind = right.kind) (hbind : op.bind left right = .ok b)
    : op.bind left' right' = .ok b := by
  unfold bind at hbind ⊢
  rw [hleft, hright]
  -- Names get only into the error for a pair of types that is not bound.
  cases hop : op.family <;> simp only [hop] at hbind ⊢ <;> grind

end

theorem Binds.conditional {op : Operator} {l r : Kind} {b : Binding} (hbinds : op.Binds l r b)
    (hop : op.family = .conditional) : b.computation = .boolean ∧ l = .boolean := by
  cases hbinds with
  | boolean _ hl _ => exact ⟨rfl, hl⟩
  | arithmetic hop' | comparison hop' | bitwise hop' | shift hop' =>
    rw [hop] at hop'
    contradiction
  | stringEquality hop' | referenceEquality hop' => cases op <;> contradiction

theorem conditional_of_shortCircuit {op : Operator} {v : Value}
    (htest : op.shortCircuit v ≠ .ok none) : op.family = .conditional := by
  cases op <;> first | rfl | exact absurd rfl htest

theorem shortCircuit_ok {op : Operator} {v : Value} {b : Bool} (hv : v.toBool = .ok b)
    : ∃ d, op.shortCircuit v = .ok d := by
  cases htest : op.shortCircuit v with
  | ok d => exact ⟨d, rfl⟩
  | error err =>
    cases verdict_of_shortCircuit htest with
    | illTyped _ herr => cases hv.symm.trans herr

theorem kind_wrap (k : NumKind) (x : k.Carrier) : (k.wrap x).kind = k.kind := by
  cases k with
  | word k => rfl
  | float k => exact Primitive.kind_ofFloat k x

theorem kind_of_operands {α β γ : Type} {x : Except EvalError α} {y : Except EvalError β}
    {f : α → β → Except EvalError γ} {g : γ → Primitive} {k : Kind} {p : Primitive}
    (hkind : ∀ z, (g z).kind = k) (hp : (do return g (← f (← x) (← y))) = .ok p) : p.kind = k := by
  obtain ⟨a, _, hp⟩ := except_bind_inv hp
  obtain ⟨b, _, hp⟩ := except_bind_inv hp
  obtain ⟨z, _, hp⟩ := except_bind_inv hp
  cases hp
  exact hkind z

variable {σ : Type} {host : Host σ} {j j' : Journal} {s s' : σ}

theorem kind_of_onContents {op : Operator} {o o' : Operands} {p : Primitive}
    (hrun : (op.onContents o).run host j s = some ((.ok p, o'), j', s')) : p.kind = .boolean := by
  obtain ⟨⟨r, o₁⟩, j₁, s₁, _, hdone⟩ := Dialogue.run_bind_inv hrun
  obtain ⟨x, _, hp⟩ := except_bind_inv (Dialogue.run_done_fst hdone)
  obtain ⟨z, _, hp⟩ := except_bind_inv hp
  cases hp
  rfl

theorem kind_of_apply {op : Operator} {c : Computation} {o o' : Operands} {p : Primitive}
    (hrun : (c.apply op o).run host j s = some ((.ok p, o'), j', s')) : p.kind = c.kind := by
  cases c with
  | arithmetic k => exact kind_of_operands (kind_wrap k) (Dialogue.run_done_fst hrun)
  | comparison k => exact kind_of_operands (fun _ => rfl) (Dialogue.run_done_fst hrun)
  | bitwise k => exact kind_of_operands (fun _ => rfl) (Dialogue.run_done_fst hrun)
  | shift k mask => exact kind_of_operands (fun _ => rfl) (Dialogue.run_done_fst hrun)
  | boolean => exact kind_of_operands (fun _ => rfl) (Dialogue.run_done_fst hrun)
  | stringEquality => exact kind_of_onContents hrun
  | referenceEquality =>
    obtain ⟨z, _, hp⟩ := except_bind_inv (Dialogue.run_done_fst hrun)
    cases hp
    rfl

theorem kind_of_evaluate {op : Operator} {c : Computation} {v w u : Value}
    (hrun : Dialogue.run host (op.evaluate c v w) j s = some (.ok u, j', s'))
    : ∃ p, u = .primitive p ∧ p.kind = c.kind := by
  obtain ⟨⟨r, o⟩, j₁, s₁, happly, hdone⟩ := Dialogue.run_bind_inv hrun
  obtain ⟨hr, _⟩ := Dialogue.run_done_inv hdone
  cases r with
  | error e => contradiction
  | ok p =>
    cases hr
    exact ⟨p, rfl, kind_of_apply happly⟩

theorem operands_read {α β γ : Type} {x : Except EvalError α} {y : Except EvalError β}
    {f : α → β → Except EvalError γ} {g : γ → Primitive} {a : α} {b : β} (hx : x = .ok a)
    (hy : y = .ok b) : (do return g (← f (← x) (← y))) = (f a b).map g := by
  subst hx hy
  change (f a b >>= fun z => pure (g z)) = (f a b).map g
  cases f a b <;> rfl

theorem error_of_operands {α β γ : Type} {x : Except EvalError α} {y : Except EvalError β}
    {f : α → β → Except EvalError γ} {g : γ → Primitive} {a : α} {b : β} {err : EvalError}
    (hx : x = .ok a) (hy : y = .ok b) (herr : (do return g (← f (← x) (← y))) = .error err)
    : f a b = .error err := by
  rw [operands_read hx hy] at herr
  cases hf : f a b with
  | ok z =>
    rw [hf] at herr
    contradiction
  | error e =>
    rw [hf] at herr
    cases herr
    rfl

def Undefined (op : Operator) (k : WordKind) (x y : k.Carrier) (cause : Invalid) : Prop :=
  op = .div ∧ k.div x y = .error (.invalidOperation cause)
    ∨ op = .mod ∧ k.rem x y = .error (.invalidOperation cause)

theorem div_error {k : WordKind} {x y : k.Carrier} {err : EvalError} (herr : k.div x y = .error err)
    : ∃ cause, err = .invalidOperation cause := by
  unfold WordKind.div at herr
  split at herr
  · cases herr
    exact ⟨_, rfl⟩
  · split at herr
    · cases herr
      exact ⟨_, rfl⟩
    · contradiction

theorem rem_error {k : WordKind} {x y : k.Carrier} {err : EvalError} (herr : k.rem x y = .error err)
    : ∃ cause, err = .invalidOperation cause := by
  unfold WordKind.rem at herr
  split at herr
  · cases herr
    exact ⟨_, rfl⟩
  · split at herr
    · cases herr
      exact ⟨_, rfl⟩
    · contradiction

theorem undefined_of_arithmetic {op : Operator} {k : WordKind} {x y : k.Carrier} {err : EvalError}
    (hop : op.family = .arithmetic) (herr : op.arithmetic (.word k) x y = .error err)
    : ∃ cause, err = .invalidOperation cause ∧ op.Undefined k x y cause := by
  cases op with
  | div =>
    obtain ⟨cause, rfl⟩ := div_error herr
    exact ⟨cause, rfl, .inl ⟨rfl, herr⟩⟩
  | mod =>
    obtain ⟨cause, rfl⟩ := rem_error herr
    exact ⟨cause, rfl, .inr ⟨rfl, herr⟩⟩
  | _ => contradiction

theorem arithmetic_float {op : Operator} (hop : op.family = .arithmetic) (k : FloatKind)
    (x y : k.Carrier) : ∃ z, op.arithmetic (.float k) x y = .ok z := by
  cases op <;> first | contradiction | exact ⟨_, rfl⟩

theorem compare_ok {op : Operator} (hop : op.family = .relational) (k : NumKind)
    (x y : k.Carrier) : ∃ z, op.compare k x y = .ok z := by
  cases op <;> first | contradiction | exact ⟨_, rfl⟩

theorem bitwise_ok {op : Operator} (hop : op.family = .logical) (k : WordKind)
    (x y : k.Carrier) : ∃ z, op.bitwise k x y = .ok z := by
  cases op <;> first | contradiction | exact ⟨_, rfl⟩

theorem shift_ok {op : Operator} (hop : op.family = .shift) (k : WordKind) (x : k.Carrier)
    (count : Nat) : ∃ z, op.shift k x count = .ok z := by
  cases op <;> first | contradiction | exact ⟨_, rfl⟩

theorem boolean_ok {op : Operator}
    (hop : op.family = .conditional ∨ op.family = .logical ∨ op.isEquality) (x y : Bool)
    : ∃ z, op.boolean x y = .ok z := by
  cases op <;> first | exact ⟨_, rfl⟩ | simp [family, isEquality] at hop

theorem equality_ok {op : Operator} (hop : op.isEquality) (equal : Bool)
    : ∃ z, op.equality equal = .ok z := by
  cases op <;> first | contradiction | exact ⟨_, rfl⟩

/-- What is left to go wrong when operands are read by the computation of an operator. -/
inductive Hazard (host : Host σ) (op : Operator) (v w : Value) (s : σ)
    : Computation → EvalError → σ → Prop where
  | division {x y : k.Carrier} (hx : v.toInt k.toIntKind = .ok x) (hy : w.toInt k.toIntKind = .ok y)
      (hundefined : op.Undefined k x y cause)
      : Hazard host op v w s (.arithmetic (.word k)) (.invalidOperation cause) s
  | read {s' : σ} (hread : v.Unread host s reason s' ∨ ∃ s₁, w.Unread host s₁ reason s')
      : Hazard host op v w s .stringEquality (.valueUnavailable reason) s'

variable {op : Operator} {l r : TypeSignature} {v w : Value} {err : EvalError}

theorem onNumbers_hazard {k : NumKind} (hop : op.family = .arithmetic) (hv : v.HonestFor l)
    (hw : w.HonestFor r) (hl : l.kind.isNumeric) (hr : r.kind.isNumeric)
    (herr : op.onNumbers v w k = .error err) : Hazard host op v w s (.arithmetic k) err s := by
  cases k with
  | word k =>
    obtain ⟨x, hx⟩ := hv.toInt hl k.toIntKind
    obtain ⟨y, hy⟩ := hw.toInt hr k.toIntKind
    obtain ⟨cause, rfl, hundefined⟩ :=
      undefined_of_arithmetic hop (error_of_operands (f := op.arithmetic (.word k)) hx hy herr)
    exact .division hx hy hundefined
  | float k =>
    obtain ⟨x, hx⟩ := hv.toFloat hl k
    obtain ⟨y, hy⟩ := hw.toFloat hr k
    have herr := error_of_operands hx hy herr
    obtain ⟨z, hz⟩ := arithmetic_float hop k x y
    rw [hz] at herr
    contradiction

theorem onCompared_ok {k : NumKind} (hop : op.family = .relational) (hv : v.HonestFor l)
    (hw : w.HonestFor r) (hl : l.kind.isNumeric) (hr : r.kind.isNumeric)
    : op.onCompared v w k ≠ .error err := by
  intro herr
  obtain ⟨x, hx⟩ := hv.read hl k
  obtain ⟨y, hy⟩ := hw.read hr k
  obtain ⟨z, hz⟩ := compare_ok hop k x y
  rw [error_of_operands hx hy herr] at hz
  contradiction

theorem onBits_ok {k : WordKind} (hop : op.family = .logical) (hv : v.HonestFor l)
    (hw : w.HonestFor r) (hl : l.kind.isNumeric) (hr : r.kind.isNumeric)
    : op.onBits v w k ≠ .error err := by
  intro herr
  obtain ⟨x, hx⟩ := hv.toInt hl k.toIntKind
  obtain ⟨y, hy⟩ := hw.toInt hr k.toIntKind
  obtain ⟨z, hz⟩ := bitwise_ok hop k x y
  rw [error_of_operands (f := op.bitwise k) hx hy herr] at hz
  contradiction

theorem onShifted_ok {k : WordKind} {mask : Nat} (hop : op.family = .shift) (hv : v.HonestFor l)
    (hw : w.HonestFor r) (hl : l.kind.isNumeric) (hr : r.kind.isNumeric)
    : op.onShifted v w k mask ≠ .error err := by
  intro herr
  -- The second operand is read first.
  obtain ⟨count, hcount⟩ := hw.toInt hr .i32
  obtain ⟨x, hx⟩ := hv.toInt hl k.toIntKind
  obtain ⟨z, hz⟩ := shift_ok hop k x (count.toNat &&& mask)
  rw [error_of_operands (f := fun n x => op.shift k x (BitVec.toNat n &&& mask)) hcount hx herr]
    at hz
  contradiction

theorem onBooleans_ok (hop : op.family = .conditional ∨ op.family = .logical ∨ op.isEquality)
    (hv : v.HonestFor l) (hw : w.HonestFor r) (hl : l.kind = .boolean) (hr : r.kind = .boolean)
    : op.onBooleans v w ≠ .error err := by
  intro herr
  obtain ⟨x, hx⟩ := hv.toBool hl
  obtain ⟨y, hy⟩ := hw.toBool hr
  obtain ⟨z, hz⟩ := boolean_ok hop x y
  rw [error_of_operands hx hy herr] at hz
  contradiction

theorem onIdentities_ok (hop : op.isEquality) : op.onIdentities v w ≠ .error err := by
  intro herr
  obtain ⟨z, hz⟩ := equality_ok hop (v.isIdentical w)
  unfold onIdentities at herr
  rw [hz] at herr
  contradiction

theorem contentsEqual_inv {o' : Operands} {res : Except EvalError Bool} (hv : v.HonestFor l)
    (hw : w.HonestFor r) (hl : l.kind = .string) (hr : r.kind = .string)
    (hrun : (Operands.pair v w).contentsEqual.run host j s = some ((res, o'), j', s'))
    : (∃ equal, res = .ok equal)
        ∨ ∃ reason, res = .error (.valueUnavailable reason)
            ∧ (v.Unread host s reason s' ∨ ∃ s₁, w.Unread host s₁ reason s') := by
  obtain ⟨⟨a, v'⟩, j₁, s₁, hleft, hrun⟩ := Dialogue.run_bind_inv hrun
  obtain ⟨c, rfl⟩ | ⟨reason, rfl, hread⟩ := hv.operandContent hl hleft
  · obtain ⟨⟨b, w'⟩, j₂, s₂, hright, hrun⟩ := Dialogue.run_bind_inv hrun
    obtain ⟨d, rfl⟩ | ⟨reason, rfl, hread⟩ := hw.operandContent hr hright
    · exact .inl ⟨_, (Dialogue.run_done_fst hrun).symm⟩
    · obtain ⟨hres, _, rfl⟩ := Dialogue.run_done_inv hrun
      cases hres
      exact .inr ⟨reason, rfl, .inr ⟨s₁, hread⟩⟩
  · obtain ⟨hres, _, rfl⟩ := Dialogue.run_done_inv hrun
    cases hres
    exact .inr ⟨reason, rfl, .inl hread⟩

theorem onContents_hazard {o' : Operands} (hop : op.isEquality) (hv : v.HonestFor l)
    (hw : w.HonestFor r) (hl : l.kind = .string) (hr : r.kind = .string)
    (hrun : (op.onContents (.pair v w)).run host j s = some ((.error err, o'), j', s'))
    : Hazard host op v w s .stringEquality err s' := by
  obtain ⟨⟨res, o₁⟩, j₁, s₁, hcontents, hdone⟩ := Dialogue.run_bind_inv hrun
  obtain ⟨herr, _, rfl⟩ := Dialogue.run_done_inv hdone
  obtain ⟨equal, rfl⟩ | ⟨reason, rfl, hread⟩ := contentsEqual_inv hv hw hl hr hcontents
  · obtain ⟨z, hz⟩ := equality_ok hop equal
    have herr : (op.equality equal >>= fun z => pure (Primitive.bool z)) = .error err :=
      (Prod.mk.inj herr).1.symm
    rw [hz] at herr
    contradiction
  · cases herr
    exact .read hread

theorem evaluate_hazard {b : Binding} (hbinds : op.Binds l.kind r.kind b) (hv : v.HonestFor l)
    (hw : w.HonestFor r)
    (hrun : Dialogue.run host (op.evaluate b.computation v w) j s = some (.error err, j', s'))
    : Hazard host op v w s b.computation err s' := by
  obtain ⟨⟨res, o⟩, j₁, s₁, happly, hdone⟩ := Dialogue.run_bind_inv hrun
  obtain ⟨herr, _, rfl⟩ := Dialogue.run_done_inv hdone
  cases res with
  | ok p => contradiction
  | error e =>
    cases herr
    cases hbinds with
    | arithmetic hop _ hl hr =>
      obtain ⟨hres, _, rfl⟩ := Dialogue.run_done_inv happly
      exact onNumbers_hazard hop hv hw hl hr (Prod.mk.inj hres).1.symm
    | comparison hop _ hl hr =>
      exact absurd (Dialogue.run_done_fst happly) (onCompared_ok hop hv hw hl hr)
    | bitwise hop hl hr =>
      exact absurd (Dialogue.run_done_fst happly) (onBits_ok hop hv hw (by rw [hl]; rfl)
        (by rw [hr]; rfl))
    | shift hop hl hr =>
      exact absurd (Dialogue.run_done_fst happly) (onShifted_ok hop hv hw (by rw [hl]; rfl)
        (Kind.isNumeric_of_isIntegral hr))
    | boolean hop hl hr =>
      exact absurd (Dialogue.run_done_fst happly) (onBooleans_ok hop hv hw hl hr)
    | stringEquality hop hl hr => exact onContents_hazard hop hv hw hl hr happly
    | referenceEquality hop =>
      exact absurd (Dialogue.run_done_fst happly) (onIdentities_ok hop)

end Operator

end Inspector
