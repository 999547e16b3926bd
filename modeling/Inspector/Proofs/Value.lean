import Inspector.Computation.Apply
import Inspector.Proofs.Dialogue

/-!
Values that are what a static type says they are, and what can be read from them.
-/

namespace Inspector

namespace Value

/-- Numbers and booleans are scalars, and strings are strings or null. -/
structure HonestFor (v : Value) (t : TypeSignature) : Prop where
  kind : v.kind = t.kind
  scalar : t.kind.isNumeric ∨ t.kind = .boolean → ∃ p, v = .primitive p
  string : t.kind = .string → (∃ s, v = .string s) ∨ v.isNullReference

theorem honestFor_primitive {p : Primitive} {t : TypeSignature} (hkind : p.kind = t.kind)
    : (primitive p).HonestFor t where
  kind := hkind
  scalar _ := ⟨p, rfl⟩
  string ht := by
    rw [ht] at hkind
    cases p <;> contradiction

theorem readScalar_primitive {α : Type} {wanted : Kind} {read : Primitive → Option α}
    {p : Primitive} (hread : (read p).isSome)
    : ∃ x, (primitive p).readScalar wanted read = .ok x := by
  obtain ⟨x, hx⟩ := Option.isSome_iff_exists.mp hread
  exact ⟨x, by simp only [readScalar, hx]⟩

namespace HonestFor

variable {v : Value} {t : TypeSignature}

theorem toInt (hv : v.HonestFor t) (ht : t.kind.isNumeric) (k : IntKind)
    : ∃ x, v.toInt k = .ok x := by
  obtain ⟨p, rfl⟩ := hv.scalar (.inl ht)
  apply readScalar_primitive
  rw [Primitive.isSome_toInt?, ← kind_primitive, hv.kind]
  exact ht

theorem toFloat (hv : v.HonestFor t) (ht : t.kind.isNumeric) (k : FloatKind)
    : ∃ x, v.toFloat k = .ok x := by
  obtain ⟨p, rfl⟩ := hv.scalar (.inl ht)
  apply readScalar_primitive
  rw [Primitive.isSome_toFloat?, ← kind_primitive, hv.kind]
  exact ht

theorem read (hv : v.HonestFor t) (ht : t.kind.isNumeric) (k : NumKind)
    : ∃ x, k.read v = .ok x := by
  cases k with
  | word k => exact hv.toInt ht k.toIntKind
  | float k => exact hv.toFloat ht k

theorem toBool (hv : v.HonestFor t) (ht : t.kind = .boolean) : ∃ b, v.toBool = .ok b := by
  obtain ⟨p, rfl⟩ := hv.scalar (.inr ht)
  apply readScalar_primitive
  rw [Primitive.isSome_toBool?, ← kind_primitive, hv.kind, ht]
  rfl

end HonestFor

end Value

variable {σ : Type} {host : Host σ} {j j' : Journal} {s s' : σ}

theorem StringValue.run_content_inv {str str' : StringValue} {r : Except EvalError String}
    (hrun : str.content.run host j s = some ((r, str'), j', s'))
    : (∃ content, r = .ok content)
        ∨ ∃ reason source a, r = .error (.valueUnavailable reason)
            ∧ str = .remote source a none
            ∧ host (.readString source a) s = some (.error reason, s') := by
  unfold content at hrun
  split at hrun
  next => exact .inl ⟨_, (Dialogue.run_done_fst hrun).symm⟩
  next => exact .inl ⟨_, (Dialogue.run_done_fst hrun).symm⟩
  next source a =>
    obtain ⟨answer, s₁, hhost, hdone⟩ := Dialogue.run_ask_inv hrun
    cases answer with
    | ok content => exact .inl ⟨content, (Dialogue.run_done_fst hdone).symm⟩
    | error reason =>
      obtain ⟨hr, _, rfl⟩ := Dialogue.run_done_inv hdone
      cases hr
      exact .inr ⟨reason, source, a, rfl, rfl, hhost⟩

namespace Value

def Unread (host : Host σ) (v : Value) (s : σ) (reason : Unavailable) (s' : σ) : Prop :=
  ∃ source a, v = .string (.remote source a none)
    ∧ host (.readString source a) s = some (.error reason, s')

theorem HonestFor.operandContent {v v' : Value} {t : TypeSignature}
    {r : Except EvalError (Option String)} (hv : v.HonestFor t) (ht : t.kind = .string)
    (hrun : v.operandContent.run host j s = some ((r, v'), j', s'))
    : (∃ content, r = .ok content)
        ∨ ∃ reason, r = .error (.valueUnavailable reason) ∧ v.Unread host s reason s' := by
  unfold Value.operandContent at hrun
  split at hrun
  next => exact .inl ⟨_, (Dialogue.run_done_fst hrun).symm⟩
  next hnull =>
    -- No host is asked for anything but a remote string that nobody has read yet.
    obtain ⟨str, rfl⟩ := (hv.string ht).resolve_right hnull
    obtain ⟨⟨r₁, v₁⟩, j₁, s₁, hcontent, hdone⟩ := Dialogue.run_bind_inv hrun
    obtain ⟨hr, rfl, rfl⟩ := Dialogue.run_done_inv hdone
    obtain ⟨⟨r₂, str₂⟩, j₂, s₂, hread, hdone⟩ := Dialogue.run_bind_inv hcontent
    obtain ⟨hr₁, rfl, rfl⟩ := Dialogue.run_done_inv hdone
    cases hr₁
    cases hr
    obtain ⟨c, rfl⟩ | ⟨reason, source, a, rfl, rfl, hhost⟩ := StringValue.run_content_inv hread
    · exact .inl ⟨some c, rfl⟩
    · exact .inr ⟨reason, rfl, source, a, rfl, hhost⟩

end Value

end Inspector
