import Inspector.Proofs.Expr.Recompile
import Inspector.Proofs.Expr.Sound

/-!
An interpreter that binds late: it takes a tree as it was built, and binds an operator when the
values of both operands are there, by their kinds. A tree that compiles is evaluated in just the
way in which it is interpreted, as long as what comes into it is what the static types say.
-/

namespace Inspector

def Operator.settle (op : Operator) (left : Value) : Evaluation (Option Bool) :=
  match op with
  | conditionalAnd => do
    if ← Evaluation.ofExcept left.toBool then return none else return some false
  | conditionalOr => do
    if ← Evaluation.ofExcept left.toBool then return some true else return none
  | _ => return none

theorem Operator.ofExcept_shortCircuit (op : Operator) (left : Value)
    : Evaluation.ofExcept (op.shortCircuit left) = op.settle left := by
  unfold shortCircuit settle
  cases op with
  | conditionalAnd | conditionalOr =>
    cases left.toBool with
    | error err => rfl
    | ok b => cases b <;> rfl
  | _ => rfl

namespace Expr

mutual

def interpret (source : Source) : Expr → Evaluation Value
  | literal l => return l.value
  | remote v _ => return v.wrap source
  | failing _ e => throw e
  | recorded id e => Dialogue.visit id (e.interpret source)
  | binary op left right _ => do
    let l ← (left.interpret source).orReport Position.first.failure
    match ← op.settle l with
    | some b => return .bool b
    | none =>
      let r ← (right.interpret source).orReport Position.second.failure
      let b ← Evaluation.ofExcept (op.bind (.of l.kind) (.of r.kind))
      op.evaluate b.computation l r
  | call target receiver args _ _ => do
    if ← Evaluation.ask .permitted then
      let receiver ← interpretOption source target receiver
      let args ← interpretList source target 0 args
      LiveCall.evaluate ⟨target, receiver, args⟩
    else
      Evaluation.fail (.notSupported (.callDisabled target))

def interpretOption (source : Source) (target : String) : Option Expr → Evaluation (Option Value)
  | none => return none
  | some e => do
    return some (← (e.interpret source).orReport (Position.receiver target).failure)

def interpretList (source : Source) (target : String) (index : Nat) :
    List Expr → Evaluation (List Value)
  | [] => return []
  | e :: es => do
    let v ← (e.interpret source).orReport (Position.argument index target).failure
    return v :: (← interpretList source target (index + 1) es)

end

variable {source : Source}

mutual

theorem interpret_fresh : (e : Expr) → e.fresh.interpret source = e.interpret source
  | .literal l | .remote v type | .failing type err => rfl
  | .recorded id e => by
    simp only [fresh, interpret, interpret_fresh e]
  | .binary op left right b => by
    simp only [fresh, apply, interpret, interpret_fresh left, interpret_fresh right]
  | .call target receiver args type compiled => by
    simp only [fresh, invoke, interpret, interpretOption_fresh receiver, interpretList_fresh args]

theorem interpretOption_fresh {target : String} : (receiver : Option Expr)
    → interpretOption source target (freshOption receiver) = interpretOption source target receiver
  | none => rfl
  | some e => by
    simp only [freshOption, interpretOption, interpret_fresh e]

theorem interpretList_fresh {target : String} : (args : List Expr) → {index : Nat}
    → interpretList source target index (freshList args) = interpretList source target index args
  | [], _ => rfl
  | e :: es, _ => by
    simp only [freshList, interpretList, interpret_fresh e, interpretList_fresh es]

end

theorem interpret_compile (e : Expr) (ctx : Context) (sink : Sink)
    : (e.compile ctx sink).tree.interpret source = e.interpret source := by
  rw [← interpret_fresh, fresh_compile, interpret_fresh]

variable {σ : Type} {host : Host σ} {e : Expr} {j : Journal} {s : σ}

theorem run_interpretOption {target : String} {receiver : Option Expr}
    (hreceiver : ∀ e, receiver = some e →
      Dialogue.run host (e.evaluate source) j s = Dialogue.run host (e.interpret source) j s)
    : Dialogue.run host (evaluateOption source target receiver) j s
      = Dialogue.run host (interpretOption source target receiver) j s := by
  cases receiver with
  | none => rfl
  | some e =>
    unfold evaluateOption interpretOption
    apply Evaluation.run_bind_congr (Evaluation.run_orReport_congr (hreceiver e rfl))
    intro v j₁ s₁ _
    rfl

theorem run_interpretList {target : String} {index : Nat} {args : List Expr}
    (hargs : ∀ before e after values j₁ s₁, args = before ++ e :: after →
      Dialogue.run host (evaluateList source target index before) j s
        = some (.ok values, j₁, s₁) →
      Dialogue.run host (e.evaluate source) j₁ s₁ = Dialogue.run host (e.interpret source) j₁ s₁)
    : Dialogue.run host (evaluateList source target index args) j s
      = Dialogue.run host (interpretList source target index args) j s := by
  induction args generalizing index j s with
  | nil => rfl
  | cons e es ih =>
    unfold evaluateList interpretList
    apply Evaluation.run_bind_congr
    · exact Evaluation.run_orReport_congr (hargs [] e es [] j s rfl rfl)
    intro v j₁ s₁ he
    have he := Evaluation.run_orReport_ok_inv he
    apply Evaluation.run_bind_congr
    · apply ih
      rintro before n after values j₂ s₂ rfl hbefore
      exact hargs (e :: before) n after (v :: values) j₂ s₂ rfl (run_evaluateList_cons he hbefore)
    intro vs j₂ s₂ _
    rfl

theorem Bound.run_interpret (hbound : e.Bound) (hhonest : Honest host source e j s)
    : Dialogue.run host (e.evaluate source) j s = Dialogue.run host (e.interpret source) j s := by
  induction hbound generalizing j s with
  | literal | remote | failing =>
    unfold evaluate interpret
    rfl
  | recorded _ ih =>
    unfold evaluate interpret Dialogue.run
    exact ih (hhonest.reached (.recorded .here))
  | binary hl hr hbind ihl ihr =>
    unfold evaluate interpret
    have hfirst := hhonest.reached (.first .here)
    apply Evaluation.run_bind_congr (Evaluation.run_orReport_congr (ihl hfirst))
    intro v j₁ s₁ hleft
    have hleft := Evaluation.run_orReport_ok_inv hleft
    apply Evaluation.run_bind_congr (by rw [Operator.ofExcept_shortCircuit])
    intro d j₂ s₂ hdone
    obtain ⟨htest, rfl, rfl⟩ := Dialogue.run_done_inv hdone
    cases d with
    | some d => rfl
    | none =>
      have hsecond := hhonest.reached (.second hleft htest.symm .here)
      apply Evaluation.run_bind_congr (Evaluation.run_orReport_congr (ihr hsecond))
      intro w j₃ s₃ hright
      have hright := Evaluation.run_orReport_ok_inv hright
      have hv : (TypeSignature.of v.kind).kind = _ := (hl.value_honest hfirst hleft).kind
      have hw : (TypeSignature.of w.kind).kind = _ := (hr.value_honest hsecond hright).kind
      rw [Evaluation.run_bind_ofExcept (Operator.bind_of_kinds hv hw hbind)]
  | call _ _ iho iha =>
    unfold evaluate interpret
    apply Evaluation.run_bind_congr rfl
    intro permitted j₁ s₁ hask
    obtain ⟨_, hok, rfl, hpermitted⟩ := Evaluation.run_ask_inv hask
    cases hok
    cases permitted with
    | false => rfl
    | true =>
      apply Evaluation.run_bind_congr
      · apply run_interpretOption
        rintro e rfl
        exact iho e rfl (hhonest.reached (.receiver hpermitted .here))
      intro this j₂ s₂ hreceiver
      apply Evaluation.run_bind_congr
      · apply run_interpretList
        rintro before e after values j₃ s₃ rfl hbefore
        apply iha e (by simp)
        exact hhonest.reached (.argument hpermitted hreceiver hbefore .here)
      intro values j₃ s₃ _
      rfl

theorem evaluate_eq_interpret (host : Host σ) (source : Source) (ctx : Context) (sink : Sink)
    (e : Expr) (j : Journal) (s : σ) (hcompile : (e.compile ctx sink).result = .ok ())
    (hhonest : Honest host source (e.compile ctx sink).tree j s)
    : Dialogue.run host ((e.compile ctx sink).tree.evaluate source) j s
      = Dialogue.run host (e.interpret source) j s := by
  rw [(bound_of_compile e hcompile).run_interpret hhonest, interpret_compile]

theorem evaluate_eq_interpret_mixed
    : let d := Debuggee.ofTables [] [("get_Count", .returned (.primitive (.int .u32 0xFFFFFFFF)))]
      let host := World.host d (.inline .attached)
      let e : Expr := .apply .add (.invoke "get_Count") (.literal (.primitive (.int .i8 (-1))))
      let c := e.compile (fun _ => some (.of (.int .u32))) {}
      let w := World.new ⟨1⟩ {}
      c.result = .ok () ∧ Honest host .attached c.tree {} w
        ∧ Dialogue.run host (c.tree.evaluate .attached) {} w
            = Dialogue.run host (e.interpret .attached) {} w
        ∧ ∃ w', Dialogue.run host (e.interpret .attached) {} w
            = some (.ok (.primitive (.int .i64 4294967294)), {}, w') := by
  intro d host e c w
  have hcompile : c.result = .ok () := rfl
  have hcall : ∃ w₁, Dialogue.run host ((call "get_Count" none [] (.of (.int .u32)) true).evaluate
      .attached) {} w = some (.ok (.primitive (.int .u32 0xFFFFFFFF)), {}, w₁) := ⟨_, rfl⟩
  have hhonest : Honest host .attached c.tree {} w := by
    intro path n j₁ w₁ v j₂ w₂ hreach hsupplied hrun
    cases hreach with
    | here => contradiction
    | first hinner =>
      obtain ⟨rfl, rfl, rfl⟩ := Reaches.eq_of_argless hinner
      obtain ⟨w₁, hcall⟩ := hcall
      cases hcall.symm.trans hrun
      exact Value.honestFor_primitive rfl
    | second _ _ hinner =>
      cases hinner with
      | here =>
        cases hrun
        exact Value.honestFor_primitive rfl
  have heq := evaluate_eq_interpret host .attached _ _ e {} w hcompile hhonest
  exact ⟨hcompile, hhonest, heq, heq ▸ ⟨_, rfl⟩⟩

end Expr

end Inspector
