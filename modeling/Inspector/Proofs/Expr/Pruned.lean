import Inspector.Proofs.Computation.Errors
import Inspector.Proofs.Dialogue.Offline
import Inspector.Proofs.Expr.Bound

/-!
Trees without their calls. Where a call stood, a pruned tree has a leaf that refuses it. While live
calls are forbidden, a compiled tree is evaluated in just the way of its pruned tree. That one is
offline, so it leaves the session alone and has no use for a permission.
-/

namespace Inspector

inductive Pruned where
  | literal (l : Literal)
  | remote (value : RemoteValue) (type : TypeSignature)
  | failing (type : TypeSignature) (error : EvalError)
  | refused (target : String)
  | recorded (id : String) (inner : Pruned)
  | binary (op : Operator) (left right : Pruned) (bound : Option Binding)

namespace Pruned

def evaluate (source : Source) : Pruned → Evaluation Value
  | literal l => return l.value
  | remote v _ => return v.wrap source
  | failing _ e => throw e
  | refused target => Evaluation.fail (.notSupported (.callDisabled target))
  | recorded id e => Dialogue.visit id (e.evaluate source)
  | binary _ _ _ none => throw .notCompiled
  | binary op left right (some b) => do
    let l ← (left.evaluate source).orReport Position.first.failure
    match ← Evaluation.ofExcept (op.shortCircuit l) with
    | some b => return .bool b
    | none =>
      let r ← (right.evaluate source).orReport Position.second.failure
      op.evaluate b.computation l r

theorem offline_evaluate (source : Source) (p : Pruned)
    : Dialogue.Offline (p.evaluate source) := by
  induction p with
  | literal | remote | failing =>
    unfold evaluate
    exact .done
  | refused target =>
    unfold evaluate
    exact .report .done
  | recorded id p ih =>
    unfold evaluate
    exact .visit ih
  | binary op left right b ihl ihr =>
    cases b with
    | none =>
      unfold evaluate
      exact .done
    | some b =>
      unfold evaluate
      apply Evaluation.offline_bind
      · apply Evaluation.offline_orReport
        exact ihl
      · intro l
        apply Evaluation.offline_bind
        · exact .done
        · intro d
          cases d with
          | some d => exact .done
          | none =>
            apply Evaluation.offline_bind
            · apply Evaluation.offline_orReport
              exact ihr
            · intro r
              exact (op.reads_evaluate b.computation l r).offline

end Pruned

def Position.isOperand : Position → Bool
  | first | second => true
  | receiver _ | argument .. => false

namespace Expr

def pruned : Expr → Pruned
  | literal l => .literal l
  | remote v type => .remote v type
  | failing type e => .failing type e
  | recorded id e => .recorded id e.pruned
  | binary op left right b => .binary op left.pruned right.pruned b
  | call target _ _ _ _ => .refused target

def isCall : Expr → Bool
  | call .. => true
  | _ => false

variable {σ : Type}

section

variable (host : Host σ) (source : Source) (e : Expr) (j : Journal) (s : σ)

def Throughout (P : Expr → σ → Prop) : Prop :=
  ∀ path n j₁ s₁, Reaches host source e j s path n j₁ s₁ → P n s₁

def Refused : Prop :=
  Throughout host source e j s fun n s₁ => n.isCall = true → host .permitted s₁ = some (false, s₁)

def Skips : Prop := Throughout host source e j s fun n _ => n.isCall = false

end

variable {host : Host σ} {source : Source} {e left right : Expr} {id : String} {op : Operator}
  {b : Binding} {v : Value} {j j₁ : Journal} {s s₁ : σ}

namespace Throughout

variable {P : Expr → σ → Prop}

theorem recorded (hall : Throughout host source (.recorded id e) j s P)
    : Throughout host source e (j.visit id) s P := by
  intro path n j₁ s₁ hreach
  exact hall path n j₁ s₁ (.recorded hreach)

theorem first (hall : Throughout host source (.binary op left right (some b)) j s P)
    : Throughout host source left j s P := by
  intro path n j₁ s₁ hreach
  exact hall _ n j₁ s₁ (.first hreach)

theorem second (hall : Throughout host source (.binary op left right (some b)) j s P)
    (hleft : Dialogue.run host (left.evaluate source) j s = some (.ok v, j₁, s₁))
    (htest : op.shortCircuit v = .ok none) : Throughout host source right j₁ s₁ P := by
  intro path n j₂ s₂ hreach
  exact hall _ n j₂ s₂ (.second hleft htest hreach)

end Throughout

theorem Skips.refused (hskips : Skips host source e j s) : Refused host source e j s := by
  intro path n j₁ s₁ hreach hcall
  have hskipped := hskips path n j₁ s₁ hreach
  rw [hskipped] at hcall
  contradiction

theorem run_pruned (hbound : e.Bound) (hrefused : Refused host source e j s)
    : Dialogue.run host (e.evaluate source) j s
      = Dialogue.run host (e.pruned.evaluate source) j s := by
  induction hbound generalizing j s with
  | literal => rfl
  | remote => rfl
  | failing => rfl
  | recorded _ ih =>
    unfold evaluate pruned Pruned.evaluate Dialogue.run
    exact ih (Throughout.recorded hrefused)
  | binary _ _ _ ihl ihr =>
    unfold evaluate pruned Pruned.evaluate
    apply Evaluation.run_bind_congr
    · apply Evaluation.run_orReport_congr
      exact ihl (Throughout.first hrefused)
    · intro v j₁ s₁ hleft
      apply Evaluation.run_bind_congr rfl
      intro d j₂ s₂ hrun
      obtain ⟨htest, rfl, rfl⟩ := Dialogue.run_done_inv hrun
      cases d with
      | some d => rfl
      | none =>
        apply Evaluation.run_bind_congr
        · apply Evaluation.run_orReport_congr
          apply ihr
          exact Throughout.second hrefused (Evaluation.run_orReport_ok_inv hleft) htest.symm
        · intro w j₃ s₃ _
          rfl
  | call =>
    have hpermitted := hrefused _ _ _ _ .here rfl
    unfold evaluate
    rw [Evaluation.run_bind_ask hpermitted]
    rfl

section

variable {d : Debuggee} {service : Service} {w w₁ : World}

theorem Refused.untouched {r : Except EvalError Value} {j' : Journal} {w' : World}
    (hbound : e.Bound) (hrefused : Refused (World.host d service) source e j w)
    (hrun : Dialogue.run (World.host d service) (e.evaluate source) j w = some (r, j', w'))
    : World.Untouched w w' := by
  rw [run_pruned hbound hrefused] at hrun
  obtain ⟨r₁, j₁, w₁, hrun₁, hw⟩ :=
    World.run_of_offline d service (e.pruned.offline_evaluate source) j w
  cases hrun.symm.trans hrun₁
  exact hw

theorem host_forbidden (hforbidden : w.session.propertyEvaluation = false)
    : World.host d service .permitted w = some (false, w) := by
  simp only [World.host, hforbidden]

structure Shallow (w : World) (path : List Position) (w' : World) : Prop where
  untouched : World.Untouched w w'
  operands : ∀ p ∈ path, p.isOperand = true

theorem Shallow.cons {path : List Position} {p : Position} {w' : World}
    (hw : World.Untouched w w₁) (hp : p.isOperand = true) (hrest : Shallow w₁ path w')
    : Shallow w (p :: path) w' where
  untouched := hw.trans hrest.untouched
  operands := List.forall_mem_cons.mpr ⟨hp, hrest.operands⟩

theorem refused_of_shallow (hforbidden : w.session.propertyEvaluation = false)
    (hshallow : ∀ path n j₁ w₁, Reaches (World.host d service) source e j w path n j₁ w₁ →
      Shallow w path w₁)
    : Refused (World.host d service) source e j w := by
  intro path n j₁ w₁ hreach _
  apply host_forbidden
  rw [(hshallow path n j₁ w₁ hreach).untouched.session, hforbidden]

theorem shallow_of_reaches (hbound : e.Bound) (hforbidden : w.session.propertyEvaluation = false)
    (path : List Position) (n : Expr) (j' : Journal) (w' : World)
    (hreach : Reaches (World.host d service) source e j w path n j' w') : Shallow w path w' := by
  induction hbound generalizing j w path n j' w' with
  | literal | remote | failing =>
    cases hreach
    exact ⟨.refl _, by simp⟩
  | recorded _ ih =>
    cases hreach with
    | here => exact ⟨.refl _, by simp⟩
    | recorded hinner => exact ih hforbidden _ _ _ _ hinner
  | binary hleft _ _ ihl ihr =>
    cases hreach with
    | here => exact ⟨.refl _, by simp⟩
    | first hinner => exact (ihl hforbidden _ _ _ _ hinner).cons (.refl _) rfl
    | second hrun htest hinner =>
      -- The first operand is refused all its calls, so it hands the world on as it found it.
      have hw := (refused_of_shallow hforbidden (ihl hforbidden)).untouched hleft hrun
      apply Shallow.cons hw rfl
      apply ihr _ _ _ _ _ hinner
      rw [hw.session, hforbidden]
  | call =>
    cases hreach with
    | here => exact ⟨.refl _, by simp⟩
    | receiver hpermitted | argument hpermitted =>
      rw [host_forbidden hforbidden] at hpermitted
      simp at hpermitted

theorem run_permit {a b : Bool} (hbound : e.Bound)
    (ha : Skips (World.host d service) source e j (w.permit a))
    (hb : Skips (World.host d service) source e j (w.permit b))
    : Dialogue.run (World.host d service) (e.evaluate source) j (w.permit b)
      = (Dialogue.run (World.host d service) (e.evaluate source) j (w.permit a)).map
        fun r => (r.1, r.2.1, r.2.2.permit b) := by
  rw [run_pruned hbound ha.refused, run_pruned hbound hb.refused, ← World.permit_permit a b,
    World.run_permit d service (e.pruned.offline_evaluate source)]

theorem skips_permit {a : Bool} (hbound : e.Bound)
    (hskips : Skips (World.host d service) source e j (w.permit a)) (b : Bool)
    : Skips (World.host d service) source e j (w.permit b) := by
  induction hbound generalizing j w with
  | literal | remote | failing =>
    intro path n j₁ w₁ hreach
    cases hreach
    rfl
  | recorded _ ih =>
    intro path n j₁ w₁ hreach
    cases hreach with
    | here => rfl
    | recorded hinner => exact ih (Throughout.recorded hskips) _ _ _ _ hinner
  | binary hleft _ _ ihl ihr =>
    intro path n j₁ w₁ hreach
    have hfirst := Throughout.first hskips
    cases hreach with
    | here => rfl
    | first hinner => exact ihl hfirst _ _ _ _ hinner
    | second hrun htest hinner =>
      -- The second operand starts in the same world either way, but for the permission.
      have hw := (ihl hfirst).refused.untouched hleft hrun
      have hrun' := run_permit hleft (ihl hfirst) hfirst
      rw [hrun] at hrun'
      have hright := ihr (Throughout.second hskips hrun' htest)
      dsimp only at hright
      rw [hw.permit_eq] at hright
      exact hright _ _ _ _ hinner
  | call => exact absurd (hskips _ _ _ _ .here) (by simp [isCall])

end

theorem evaluate_forbidden (d : Debuggee) (service : Service) (source : Source) (ctx : Context)
    (sink : Sink) (e : Expr) (j : Journal) (w : World)
    (hcompile : (e.compile ctx sink).result = .ok ())
    (hforbidden : w.session.propertyEvaluation = false)
    : let tree := (e.compile ctx sink).tree
      let host := World.host d service
      (∃ r j' w', Dialogue.run host (tree.evaluate source) j w = some (r, j', w')
          ∧ Dialogue.run host (tree.pruned.evaluate source) j w = some (r, j', w')
          ∧ w'.session = w.session ∧ w'.trace.executed = w.trace.executed
          ∧ w'.control = w.control)
        ∧ (∀ path n j₁ w₁, Reaches host source tree j w path n j₁ w₁ →
            ∀ p ∈ path, p.isOperand = true)
        ∧ ∀ enabled, Skips host source tree j (w.permit enabled) →
            Dialogue.run host (tree.evaluate source) j (w.permit true)
              = (Dialogue.run host (tree.evaluate source) j w).map
                fun r => (r.1, r.2.1, r.2.2.permit true) := by
  intro tree host
  have hbound : tree.Bound := bound_of_compile e hcompile
  have hshallow : ∀ path n j₁ w₁, Reaches host source tree j w path n j₁ w₁ → Shallow w path w₁ :=
    shallow_of_reaches hbound hforbidden
  have hpruned := run_pruned hbound (refused_of_shallow hforbidden hshallow)
  refine ⟨?_, fun path n j₁ w₁ hreach => (hshallow path n j₁ w₁ hreach).operands, ?_⟩
  · obtain ⟨r, j', w', hrun, hw⟩ :=
      World.run_of_offline d service (tree.pruned.offline_evaluate source) j w
    exact ⟨r, j', w', hpruned.trans hrun, hrun, hw.session, hw.executed, hw.control⟩
  · intro enabled hskips
    have hpermitted := run_permit hbound (skips_permit hbound hskips false)
      (skips_permit hbound hskips true)
    rw [World.permit_self hforbidden] at hpermitted
    exact hpermitted

theorem evaluate_forbidden_receiver
    : let d := Debuggee.ofTables [] []
      let host := World.host d (.inline .attached)
      let ctx : Context := fun _ => some .boolean
      let call := invoke "get_Ready" (some (recorded "this" (invoke "get_This")))
      let settled := literal (.primitive (.bool true))
      let short := (apply .conditionalOr settled call).compile ctx {}
      let whole := (apply .bitOr settled call).compile ctx {}
      let w := (World.new ⟨1⟩ {}).permit false
      short.result = .ok () ∧ whole.result = .ok () ∧ w.session.propertyEvaluation = false
        ∧ Dialogue.run host (short.tree.evaluate .attached) {} (w.permit true)
          = some (.ok (.bool true), {}, w.permit true)
        ∧ ∃ j', Dialogue.run host (whole.tree.evaluate .attached) {} w
            = some (.error (.notSupported (.callDisabled "get_Ready")), j', w)
          ∧ Dialogue.run host (whole.tree.pruned.evaluate .attached) {} w
            = some (.error (.notSupported (.callDisabled "get_Ready")), j', w)
          ∧ j'.visits = []
          ∧ j'.sink.messages
            = ["not supported: cannot call 'get_Ready' while property evaluation is disabled",
              "failed to evaluate the second operand"] := by
  intro d host ctx call settled short whole w
  have hshort : short.result = .ok () := rfl
  have hwhole : whole.result = .ok () := rfl
  have hskips : Skips host .attached short.tree {} (w.permit false) := by
    intro path n j₁ w₁ hreach
    cases hreach with
    | here => rfl
    | first hinner =>
      cases hinner
      rfl
    | second hleft htest =>
      cases hleft
      have hsettled : Operator.conditionalOr.shortCircuit (.bool true) = .ok (some true) := rfl
      cases hsettled.symm.trans htest
  obtain ⟨_, _, hpermit⟩ :=
    evaluate_forbidden d (.inline .attached) .attached ctx {} _ {} w hshort rfl
  obtain ⟨⟨r, j', w', hrun, hpruned, _⟩, _⟩ :=
    evaluate_forbidden d (.inline .attached) .attached ctx {} _ {} w hwhole rfl
  refine ⟨hshort, hwhole, rfl, hpermit false hskips, j', ?_⟩
  cases hrun
  exact ⟨rfl, hpruned, rfl, by decide⟩

end Expr

end Inspector
