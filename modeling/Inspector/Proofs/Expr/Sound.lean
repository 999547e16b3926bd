import Inspector.Proofs.Computation
import Inspector.Proofs.Expr.Bound
import Inspector.World

/-!
Soundness of compilation. If everything that comes into the evaluation of a compiled tree is what
the static types say, then so is the value of the tree, and only a few errors are left.
-/

namespace Inspector

namespace Expr

variable {σ : Type}

def supplied : Expr → Bool
  | literal _ | remote .. | call .. => true
  | failing .. | recorded .. | binary .. => false

section

variable (host : Host σ) (source : Source)

/-- Every value that comes into an evaluation is what the static type of its node says. -/
def Honest (e : Expr) (j : Journal) (s : σ) : Prop :=
  ∀ ⦃path n j₁ s₁ v j₂ s₂⦄, Reaches host source e j s path n j₁ s₁ → n.supplied →
    Dialogue.run host (n.evaluate source) j₁ s₁ = some (.ok v, j₂, s₂) → v.HonestFor n.type

inductive Hazard : Expr → Journal → σ → EvalError → Prop where
  | carried {type : TypeSignature} : Hazard (failing type err) j s err
  | disabled {type : TypeSignature} (hpermitted : host .permitted s = some (false, s'))
      : Hazard (call target receiver args type true) j s (.notSupported (.callDisabled target))
  | called (hcall : Calls host source n j s c j₁ s₁) (hfails : c.Fails host s₁ err s')
      : Hazard n j s err
  | computation (hoperands : Operates host source (binary op left right (some b)) j s v w j₁ s₁)
      (hazard : Operator.Hazard host op v w s₁ b.computation err s')
      : Hazard (binary op left right (some b)) j s err

end

variable {host : Host σ} {source : Source} {e n : Expr} {j j' j₁ : Journal} {s s' s₁ : σ}

theorem Honest.reached {path : List Position} (hhonest : Honest host source e j s)
    (hreach : Reaches host source e j s path n j₁ s₁) : Honest host source n j₁ s₁ := by
  intro rest m j₂ s₂ v j₃ s₃ hrest hsupplied hrun
  exact hhonest (hreach.trans hrest) hsupplied hrun

theorem kind_of_binary {op : Operator} {left right : Expr} {b : Option Binding} {v : Value}
    (hbound : (binary op left right b).Bound)
    (hrun : Dialogue.run host ((binary op left right b).evaluate source) j s = some (.ok v, j', s'))
    : ∃ p, v = .primitive p ∧ p.kind = (binary op left right b).type.kind := by
  cases hbound with
  | @binary _ _ _ b _ _ hbind =>
    have hbinds := Operator.binds_of_bind hbind
    have hkind : (Expr.binary op left right (some b)).type.kind = b.computation.kind := by
      unfold Expr.type
      exact hbinds.type_kind
    cases binaryRun hrun with
    | settled _ htest =>
      have hop : op.family = .conditional := by
        apply Operator.conditional_of_shortCircuit
        rw [htest]
        simp
      refine ⟨.bool _, rfl, ?_⟩
      rw [hkind, (hbinds.conditional hop).1]
      rfl
    | operated _ hcompute =>
      obtain ⟨p, rfl, hp⟩ := Operator.kind_of_evaluate hcompute
      exact ⟨p, rfl, hp.trans hkind.symm⟩

theorem Bound.value_honest {v : Value} (hbound : e.Bound) (hhonest : Honest host source e j s)
    (hrun : Dialogue.run host (e.evaluate source) j s = some (.ok v, j', s'))
    : v.HonestFor e.type := by
  induction hbound generalizing j with
  | literal | remote | call => exact hhonest .here rfl hrun
  | failing =>
    unfold evaluate at hrun
    obtain ⟨herr, _⟩ := Dialogue.run_done_inv hrun
    contradiction
  | recorded _ ih =>
    unfold evaluate Dialogue.run at hrun
    exact ih (hhonest.reached (.recorded .here)) hrun
  | binary hl hr hbind =>
    obtain ⟨p, rfl, hp⟩ := kind_of_binary (.binary hl hr hbind) hrun
    exact Value.honestFor_primitive hp

theorem Bound.hazard_of_fails {err : EvalError} (hbound : e.Bound)
    (hhonest : Honest host source e j s) (hfails : Fails host source e j s err j' s')
    : Hazard host source e j s err := by
  cases hfails with
  | carried => exact .carried
  | unbound => contradiction
  | uncompiled => contradiction
  | undecided hleft htest =>
    cases hbound with
    | binary hl _ hbind =>
      have hbinds := Operator.binds_of_bind hbind
      -- Only the operators on two booleans look at the first one before the second.
      have hop := Operator.conditional_of_shortCircuit (by rw [htest]; simp)
      have hv := hl.value_honest (hhonest.reached (.first .here)) hleft
      obtain ⟨b, hb⟩ := hv.toBool (hbinds.conditional hop).2
      obtain ⟨d, hd⟩ := Operator.shortCircuit_ok hb
      rw [htest] at hd
      contradiction
  | computation hoperands hcompute =>
    cases hbound with
    | binary hl hr hbind =>
      have hbinds := Operator.binds_of_bind hbind
      obtain ⟨hleft, htest, hright⟩ := id hoperands
      have hv := hl.value_honest (hhonest.reached (.first .here)) hleft
      have hw := hr.value_honest (hhonest.reached (.second hleft htest .here)) hright
      exact .computation hoperands (Operator.evaluate_hazard hbinds hv hw hcompute)
  | disabled hpermitted => exact .disabled hpermitted
  | called hcall hfails => exact .called hcall hfails

theorem compile_sound (host : Host σ) (source : Source) (ctx : Context) (sink : Sink) (e : Expr)
    (j j' : Journal) (s s' : σ) (r : Except EvalError Value)
    (hcompile : (e.compile ctx sink).result = .ok ())
    (hhonest : Honest host source (e.compile ctx sink).tree j s)
    (hrun : Dialogue.run host ((e.compile ctx sink).tree.evaluate source) j s = some (r, j', s'))
    : match r with
      | .ok v => v.HonestFor (e.compile ctx sink).tree.type
      | .error err => ∃ path n j₁ s₁,
          Reaches host source (e.compile ctx sink).tree j s path n j₁ s₁
            ∧ Hazard host source n j₁ s₁ err := by
  have hbound := bound_of_compile e hcompile
  cases r with
  | ok v => exact hbound.value_honest hhonest hrun
  | error err =>
    obtain ⟨path, n, j₁, s₁, j₂, hreach, hfails, _⟩ := origin_of_error hrun
    have hhazard := (hbound.reached hreach).hazard_of_fails (hhonest.reached hreach) hfails
    exact ⟨path, n, j₁, s₁, hreach, hhazard⟩

theorem compile_sound_null
    : let d : Debuggee := ⟨fun _ _ => .ok "", fun _ _ => .returned (.null (.of .string))⟩
      let host := World.host d (.inline .attached)
      let e : Expr := .apply .eq (.invoke "get_Name") (.literal (.text ""))
      let c := e.compile (fun _ => some (.of .string)) {}
      let w := World.new ⟨1⟩ {}
      c.result = .ok () ∧ Honest host .attached c.tree {} w
        ∧ ∃ w', Dialogue.run host (c.tree.evaluate .attached) {} w
            = some (.ok (.bool false), {}, w')
          ∧ (Value.bool false).HonestFor c.tree.type := by
  intro d host e c w
  have hcompile : c.result = .ok () := rfl
  have hcall : ∃ w₁, Dialogue.run host ((call "get_Name" none [] (.of .string) true).evaluate
      .attached) {} w = some (.ok (.null (.of .string)), {}, w₁) := ⟨_, rfl⟩
  have hhonest : Honest host .attached c.tree {} w := by
    intro path n j₁ w₁ v j₂ w₂ hreach hsupplied hrun
    cases hreach with
    | here => contradiction
    | first hinner =>
      obtain ⟨rfl, rfl, rfl⟩ := Reaches.eq_of_argless hinner
      obtain ⟨w₁, hcall⟩ := hcall
      cases hcall.symm.trans hrun
      exact ⟨rfl, by rintro (h | h) <;> contradiction, fun _ => .inr rfl⟩
    | second _ _ hinner =>
      cases hinner with
      | here =>
        cases hrun
        exact ⟨rfl, by rintro (h | h) <;> contradiction, fun _ => .inl ⟨_, rfl⟩⟩
  have hrun : ∃ w', Dialogue.run host (c.tree.evaluate .attached) {} w
      = some (.ok (.bool false), {}, w') := ⟨_, rfl⟩
  obtain ⟨w', hrun⟩ := hrun
  exact ⟨hcompile, hhonest, w', hrun, compile_sound host _ _ _ e _ _ _ _ _ hcompile hhonest hrun⟩

end Expr

end Inspector
