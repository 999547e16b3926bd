import Inspector.Proofs.Expr.Operands
import Inspector.Proofs.Expr.Provenance
import Inspector.Proofs.World

/-!
Conditional operators against their eager twins, which look at both operands always. A conditional
operator goes the way of its twin, or it ends where its first operand has ended. So it succeeds
where its twin does, with the same boolean, and its calls are the first ones of its twin.
-/

namespace Inspector

variable {σ : Type} {host : Host σ} {source : Source} {j j₁ : Journal} {s s₁ : σ}

namespace Expr

variable {op : Operator} {left right : Expr} {b : Binding} {v : Value}

theorem run_binary_silent (hleft : Dialogue.run host (left.evaluate source) j s = none)
    : Dialogue.run host ((binary op left right (some b)).evaluate source) j s = none := by
  unfold evaluate
  rw [Evaluation.bind_eq]
  unfold Evaluation.orReport
  rw [Dialogue.run_bind, Dialogue.run_bind, hleft]
  rfl

theorem run_binary_failed {err : EvalError}
    (hleft : Dialogue.run host (left.evaluate source) j s = some (.error err, j₁, s₁))
    : Dialogue.run host ((binary op left right (some b)).evaluate source) j s
      = some (.error err, j₁.report Position.first.failure, s₁) := by
  unfold evaluate
  apply Evaluation.run_bind_error
  apply Evaluation.run_orReport_error hleft

theorem run_binary_undecided {err : EvalError}
    (hleft : Dialogue.run host (left.evaluate source) j s = some (.ok v, j₁, s₁))
    (htest : op.shortCircuit v = .error err)
    : Dialogue.run host ((binary op left right (some b)).evaluate source) j s
      = some (.error err, j₁, s₁) := by
  unfold evaluate
  rw [Evaluation.run_bind_ok (Evaluation.run_orReport_ok hleft), htest]
  rfl

theorem run_binary_settled {d : Bool}
    (hleft : Dialogue.run host (left.evaluate source) j s = some (.ok v, j₁, s₁))
    (htest : op.shortCircuit v = .ok (some d))
    : Dialogue.run host ((binary op left right (some b)).evaluate source) j s
      = some (.ok (.bool d), j₁, s₁) := by
  unfold evaluate
  rw [Evaluation.run_bind_ok (Evaluation.run_orReport_ok hleft),
    Evaluation.run_bind_ofExcept htest]
  rfl

theorem run_binary_second
    (hleft : Dialogue.run host (left.evaluate source) j s = some (.ok v, j₁, s₁))
    (htest : op.shortCircuit v = .ok none)
    : Dialogue.run host ((binary op left right (some b)).evaluate source) j s
      = Dialogue.run host (do
          let w ← (right.evaluate source).orReport Position.second.failure
          op.evaluate b.computation v w : Evaluation Value) j₁ s₁ := by
  rw [evaluate, Evaluation.run_bind_ok (Evaluation.run_orReport_ok hleft),
    Evaluation.run_bind_ofExcept htest]

end Expr

abbrev Binding.onBooleans : Binding := ⟨.boolean, .boolean⟩

namespace Operator

/-- The operator that comes to the same boolean without leaving an operand out. -/
def eager? : Operator → Option Operator
  | conditionalAnd => some bitAnd
  | conditionalOr => some bitOr
  | _ => none

variable {op eager : Operator} {d : Bool} {v w : Value}

theorem bind_eager (hop : op.eager? = some eager) {left right : TypeSignature}
    (hleft : left.kind = .boolean) (hright : right.kind = .boolean)
    : op.bind left right = .ok .onBooleans ∧ eager.bind left right = .ok .onBooleans := by
  unfold bind
  rw [hleft, hright]
  cases op with
  | conditionalAnd | conditionalOr =>
    cases hop
    constructor <;> rfl
  | _ => contradiction

theorem evaluate_eager (hop : op.eager? = some eager) (v w : Value)
    : op.evaluate .boolean v w = eager.evaluate .boolean v w := by
  cases op with
  | conditionalAnd | conditionalOr =>
    cases hop
    rfl
  | _ => contradiction

theorem shortCircuit_eager (hop : op.eager? = some eager) (v : Value)
    : eager.shortCircuit v = .ok none := by
  cases op with
  | conditionalAnd | conditionalOr =>
    cases hop
    rfl
  | _ => contradiction

inductive Decides (op : Operator) (d : Bool) (v : Value) : Prop where
  | illTyped (hv : v.toBool = .error err) (htest : op.shortCircuit v = .error err)
  | settled (hv : v.toBool = .ok d) (htest : op.shortCircuit v = .ok (some d))
  | unsettled (hv : v.toBool = .ok b) (hb : b ≠ d) (htest : op.shortCircuit v = .ok none)

theorem decides (hd : op.decisive = some d) (v : Value) : op.Decides d v := by
  cases htest : op.shortCircuit v with
  | error err =>
    cases verdict_of_shortCircuit htest with
    | illTyped _ hv => exact .illTyped hv htest
  | ok r =>
    cases verdict_of_shortCircuit htest with
    | settled hop hv =>
      obtain ⟨rfl, rfl⟩ | ⟨rfl, rfl⟩ := hop <;> cases hd <;> exact .settled hv htest
    | unsettled hand hor =>
      cases op with
      | conditionalAnd =>
        cases hd
        exact .unsettled (hand rfl) (by simp) htest
      | conditionalOr =>
        cases hd
        exact .unsettled (hor rfl) (by simp) htest
      | _ => contradiction

theorem boolean_settled (hop : op.eager? = some eager) (hd : op.decisive = some d) (b : Bool)
    : eager.boolean d b = .ok d := by
  cases op with
  | conditionalAnd | conditionalOr =>
    cases hop
    cases hd
    rfl
  | _ => contradiction

theorem evaluate_boolean_inv {r : Value}
    (hrun : Dialogue.run host (op.evaluate .boolean v w) j s = some (.ok r, j₁, s₁))
    : ∃ a b c, v.toBool = .ok a ∧ op.boolean a b = .ok c ∧ r = .bool c := by
  obtain ⟨⟨res, o⟩, j₂, s₂, happly, hdone⟩ := Dialogue.run_bind_inv hrun
  have hr := (Dialogue.run_done_inv hdone).1
  have hres : res = op.onBooleans v w := (Dialogue.run_done_fst happly).symm
  cases res with
  | error err => contradiction
  | ok p =>
    cases hr
    obtain ⟨a, hv, hres⟩ := except_bind_inv hres.symm
    obtain ⟨b, hw, hres⟩ := except_bind_inv hres
    obtain ⟨c, hc, hres⟩ := except_bind_inv hres
    cases hres
    exact ⟨a, b, c, hv, hc, rfl⟩

end Operator

namespace Expr

structure Shortens (host : Host World) (source : Source) (left short whole : Expr) (d : Bool)
    (j : Journal) (w : World) : Prop where
  succeeds : ∀ v j' w', Dialogue.run host (whole.evaluate source) j w = some (.ok v, j', w') →
    ∃ b j₁ w₁, v = .bool b ∧
      Dialogue.run host (short.evaluate source) j w = some (.ok (.bool b), j₁, w₁)
  failed : ∀ err j₁ w₁, Dialogue.run host (left.evaluate source) j w = some (.error err, j₁, w₁) →
    Dialogue.run host (short.evaluate source) j w
        = some (.error err, j₁.report Position.first.failure, w₁) ∧
      Dialogue.run host (whole.evaluate source) j w
        = some (.error err, j₁.report Position.first.failure, w₁)
  unsettled : ∀ v b j₁ w₁, Dialogue.run host (left.evaluate source) j w = some (.ok v, j₁, w₁) →
    v.toBool = .ok b → b ≠ d →
      Dialogue.run host (short.evaluate source) j w = Dialogue.run host (whole.evaluate source) j w
  settled : ∀ v j₁ w₁, Dialogue.run host (left.evaluate source) j w = some (.ok v, j₁, w₁) →
    v.toBool = .ok d →
      Dialogue.run host (short.evaluate source) j w = some (.ok (.bool d), j₁, w₁) ∧
        j₁.sink = j.sink
  /-- Where the two part, the one ends with the first operand, and the other goes on from there. -/
  parts : ∀ r j₁ w₁, Dialogue.run host (short.evaluate source) j w = some (r, j₁, w₁) →
    Dialogue.run host (whole.evaluate source) j w = some (r, j₁, w₁) ∨
      ∃ v, Dialogue.run host (left.evaluate source) j w = some (.ok v, j₁, w₁)
  silent : Dialogue.run host (short.evaluate source) j w = none →
    Dialogue.run host (whole.evaluate source) j w = none
  called : ∀ r r' j₁ j₂ w₁ w₂,
    Dialogue.run host (short.evaluate source) j w = some (r, j₁, w₁) →
    Dialogue.run host (whole.evaluate source) j w = some (r', j₂, w₂) →
      w₁.trace.executed <+: w₂.trace.executed

variable {op eager : Operator} {d : Bool} {left right : Expr} {v : Value}

theorem run_unsettled (hop : op.eager? = some eager) (htest : op.shortCircuit v = .ok none)
    (hleft : Dialogue.run host (left.evaluate source) j s = some (.ok v, j₁, s₁))
    : Dialogue.run host ((binary op left right (some .onBooleans)).evaluate source) j s
      = Dialogue.run host ((binary eager left right (some .onBooleans)).evaluate source) j s
      := by
  rw [run_binary_second hleft htest, run_binary_second hleft (Operator.shortCircuit_eager hop v)]
  simp only [Operator.evaluate_eager hop]

theorem run_parting (hop : op.eager? = some eager) (hd : op.decisive = some d)
    : Dialogue.run host ((binary op left right (some .onBooleans)).evaluate source) j s
        = Dialogue.run host
          ((binary eager left right (some .onBooleans)).evaluate source) j s
      ∨ ∃ v r j₁ s₁, Dialogue.run host (left.evaluate source) j s = some (.ok v, j₁, s₁)
        ∧ Dialogue.run host
          ((binary op left right (some .onBooleans)).evaluate source) j s
            = some (r, j₁, s₁) := by
  cases hleft : Dialogue.run host (left.evaluate source) j s with
  | none =>
    left
    rw [run_binary_silent hleft, run_binary_silent hleft]
  | some res =>
    obtain ⟨res, j₁, s₁⟩ := res
    cases res with
    | error err =>
      left
      rw [run_binary_failed hleft, run_binary_failed hleft]
    | ok v =>
      cases Operator.decides hd v with
      | illTyped _ htest =>
        right
        exact ⟨v, _, j₁, s₁, rfl, run_binary_undecided hleft htest⟩
      | settled _ htest =>
        right
        exact ⟨v, _, j₁, s₁, rfl, run_binary_settled hleft htest⟩
      | unsettled _ _ htest =>
        left
        apply run_unsettled hop htest hleft

theorem run_whole_ok (hop : op.eager? = some eager) (hd : op.decisive = some d) {r : Value}
    (hwhole : Dialogue.run host
      ((binary eager left right (some .onBooleans)).evaluate source) j s
        = some (.ok r, j₁, s₁))
    : ∃ b j' s', r = .bool b ∧ Dialogue.run host
      ((binary op left right (some .onBooleans)).evaluate source) j s
        = some (.ok (.bool b), j', s') := by
  cases binaryRun hwhole with
  | settled hleft htest =>
    cases (Operator.shortCircuit_eager hop _).symm.trans htest
  | operated hoperands hcompute =>
    obtain ⟨hleft, _, hright⟩ := hoperands
    obtain ⟨a, b, c, hv, hc, rfl⟩ := Operator.evaluate_boolean_inv hcompute
    cases Operator.decides hd _ with
    | illTyped hv' _ =>
      rw [hv] at hv'
      contradiction
    | settled hv' htest =>
      cases hv.symm.trans hv'
      cases hc.symm.trans (Operator.boolean_settled hop hd b)
      exact ⟨_, _, _, rfl, run_binary_settled hleft htest⟩
    | unsettled _ _ htest => exact ⟨c, _, _, rfl, (run_unsettled hop htest hleft).trans hwhole⟩

theorem shortens (d' : Debuggee) (service : Service) (hop : op.eager? = some eager)
    (hd : op.decisive = some d) (j : Journal) (w : World)
    : Shortens (World.host d' service) source left
        (binary op left right (some .onBooleans))
        (binary eager left right (some .onBooleans)) d j w where
  succeeds v j' w' hwhole := run_whole_ok hop hd hwhole
  failed err j₁ w₁ hleft := ⟨run_binary_failed hleft, run_binary_failed hleft⟩
  unsettled v b j₁ w₁ hleft hv hb := by
    cases Operator.decides hd v with
    | illTyped hv' _ =>
      rw [hv] at hv'
      contradiction
    | settled hv' _ =>
      cases hv.symm.trans hv'
      contradiction
    | unsettled _ _ htest => apply run_unsettled hop htest hleft
  settled v j₁ w₁ hleft hv := by
    cases Operator.decides hd v with
    | illTyped hv' _ =>
      rw [hv] at hv'
      contradiction
    | settled _ htest => exact ⟨run_binary_settled hleft htest, left.quiet_evaluate hleft⟩
    | unsettled hv' hb _ =>
      cases hv.symm.trans hv'
      contradiction
  parts r j₁ w₁ hshort := by
    obtain heq | ⟨v, r', j', w', hleft, hshort'⟩ := run_parting hop hd
    · left
      rw [← heq, hshort]
    · right
      cases hshort.symm.trans hshort'
      exact ⟨v, hleft⟩
  silent hshort := by
    obtain heq | ⟨v, r, j', w', _, hshort'⟩ := run_parting hop hd
    · rw [← heq, hshort]
    · rw [hshort] at hshort'
      contradiction
  called r r' j₁ j₂ w₁ w₂ hshort hwhole := by
    obtain heq | ⟨v, r'', j', w', hleft, hshort'⟩ := run_parting hop hd
    · rw [hshort, hwhole] at heq
      cases heq
      apply List.prefix_rfl
    · cases hshort.symm.trans hshort'
      rw [run_binary_second hleft (Operator.shortCircuit_eager hop v)] at hwhole
      apply World.executed_run d' hwhole

theorem conditional_shortens (d : Debuggee) (service : Service) (source : Source) (ctx : Context)
    (sink : Sink) (op eager : Operator) (decisive : Bool) (left right : Expr) (j : Journal)
    (w : World) (hop : op.eager? = some eager) (hdecisive : op.decisive = some decisive)
    (hleft : (left.compile ctx sink).result = .ok ())
    (hright : (right.compile ctx (left.compile ctx sink).sink).result = .ok ())
    (hlkind : (left.compile ctx sink).tree.type.kind = .boolean)
    (hrkind : (right.compile ctx (left.compile ctx sink).sink).tree.type.kind = .boolean)
    : let short := (apply op left right).compile ctx sink
      let whole := (apply eager left right).compile ctx sink
      short.result = .ok () ∧ whole.result = .ok ()
        ∧ short.tree.type = .boolean ∧ whole.tree.type = .boolean
        ∧ Shortens (World.host d service) source (left.compile ctx sink).tree short.tree whole.tree
          decisive j w := by
  intro short whole
  have ⟨hbind, hbind'⟩ := Operator.bind_eager hop hlkind hrkind
  have hshort : short = _ := compile_binary hleft hright hbind none
  have hwhole : whole = _ := compile_binary hleft hright hbind' none
  rw [hshort, hwhole]
  exact ⟨rfl, rfl, rfl, rfl, shortens d service hop hdecisive j w⟩

theorem conditional_shortens_throwing
    : let d := Debuggee.ofTables [] [("get_Ready", .returned (.primitive (.bool false))),
        ("Check", .threw (.null .object))]
      let host := World.host d (.inline .attached)
      let ctx : Context := fun _ => some .boolean
      let left := invoke "get_Ready"
      let right := invoke "Check"
      let short := (apply .conditionalAnd left right).compile ctx {}
      let whole := (apply .bitAnd left right).compile ctx {}
      let w := World.new ⟨1⟩ {}
      (left.compile ctx {}).result = .ok () ∧ (right.compile ctx {}).result = .ok ()
        ∧ Shortens host .attached (left.compile ctx {}).tree short.tree whole.tree false {} w
        ∧ ∃ w₁ err j₂ w₂,
          Dialogue.run host (short.tree.evaluate .attached) {} w = some (.ok (.bool false), {}, w₁)
            ∧ Dialogue.run host (whole.tree.evaluate .attached) {} w = some (.error err, j₂, w₂)
            ∧ w₁.trace.executed.length = 1 ∧ w₂.trace.executed.length = 2 := by
  intro d host ctx left right short whole w
  have hleft : (left.compile ctx {}).result = .ok () := rfl
  have hright : (right.compile ctx {}).result = .ok () := rfl
  have hshortens := conditional_shortens d (.inline .attached) .attached ctx {} .conditionalAnd
    .bitAnd false left right {} w rfl rfl hleft hright rfl rfl
  exact ⟨hleft, hright, hshortens.2.2.2.2, _, _, _, _, rfl, rfl, rfl, rfl⟩

end Expr

end Inspector
