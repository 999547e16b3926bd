import Inspector.Proofs.Expr.Run

/-!
Where errors come from. An evaluation gets to some nodes of its tree, each along a path of operands;
an evaluation that fails has got to a node that failed by itself, and the operands on the path to
it are reported from the inside out.
-/

namespace Inspector

/-- What the nodes around a failed one report, the innermost first. -/
def Journal.backOut (j : Journal) (path : List Position) : Journal :=
  path.foldr (fun p j => j.report p.failure) j

namespace Expr

section

variable {motive : Expr → Prop} (literal : ∀ l, motive (literal l))
  (remote : ∀ v type, motive (remote v type)) (failing : ∀ type err, motive (failing type err))
  (recorded : ∀ id e, motive e → motive (recorded id e))
  (binary : ∀ op left right b, motive left → motive right → motive (binary op left right b))
  (call : ∀ target receiver args type compiled, (∀ e, receiver = some e → motive e)
    → (∀ e ∈ args, motive e) → motive (call target receiver args type compiled))

include literal remote failing recorded binary call

@[elab_as_elim]
theorem induction : (e : Expr) → motive e
  | .literal l => literal l
  | .remote v type => remote v type
  | .failing type err => failing type err
  | .recorded id e => recorded id e (induction e)
  | .binary op left right b => binary op left right b (induction left) (induction right)
  | .call target receiver args type compiled =>
    call target receiver args type compiled (fun e _ => induction e) (fun e _ => induction e)
termination_by e => sizeOf e
decreasing_by
  -- An argument is smaller than the list that it is in.
  all_goals simp_wf
  all_goals try omega
  · subst_vars
    simp
    omega
  · next h =>
    have := List.sizeOf_lt_of_mem h
    omega

end

variable {σ : Type}

section

variable (host : Host σ) (source : Source)

/-- An evaluation of the first tree gets to the second, through the operands on the path. -/
inductive Reaches : Expr → Journal → σ → List Position → Expr → Journal → σ → Prop where
  | here : Reaches e j s [] e j s
  | recorded {id : String} (hinner : Reaches e (j.visit id) s path n j' s')
      : Reaches (recorded id e) j s path n j' s'
  | first (hinner : Reaches left j s path n j' s')
      : Reaches (binary op left right (some b)) j s (.first :: path) n j' s'
  | second (hleft : Dialogue.run host (left.evaluate source) j s = some (.ok v, j₁, s₁))
      (htest : op.shortCircuit v = .ok none) (hinner : Reaches right j₁ s₁ path n j' s')
      : Reaches (binary op left right (some b)) j s (.second :: path) n j' s'
  | receiver {type : TypeSignature} (hpermitted : host .permitted s = some (true, s₁))
      (hinner : Reaches e j s₁ path n j' s')
      : Reaches (call target (some e) args type true) j s (.receiver target :: path) n j' s'
  | argument {type : TypeSignature} (hpermitted : host .permitted s = some (true, s₁))
      (hreceiver : Dialogue.run host (evaluateOption source target receiver) j s₁
        = some (.ok this, j₂, s₂))
      (hbefore : Dialogue.run host (evaluateList source target 0 before) j₂ s₂
        = some (.ok values, j₃, s₃))
      (hinner : Reaches e j₃ s₃ path n j' s')
      : Reaches (call target receiver (before ++ e :: after) type true) j s
        (.argument before.length target :: path) n j' s'

/-- A node fails by itself, not because of an operand. -/
inductive Fails : Expr → Journal → σ → EvalError → Journal → σ → Prop where
  | carried {type : TypeSignature} : Fails (failing type err) j s err j s
  | unbound : Fails (binary op left right none) j s .notCompiled j s
  | uncompiled {type : TypeSignature}
      : Fails (call target receiver args type false) j s .notCompiled j s
  | undecided (hleft : Dialogue.run host (left.evaluate source) j s = some (.ok v, j', s'))
      (htest : op.shortCircuit v = .error err)
      : Fails (binary op left right (some b)) j s err j' s'
  | computation (hoperands : Operates host source (binary op left right (some b)) j s v w j₁ s₁)
      (hcompute : Dialogue.run host (op.evaluate b.computation v w) j₁ s₁
        = some (.error err, j', s'))
      : Fails (binary op left right (some b)) j s err j' s'
  | disabled {type : TypeSignature} (hpermitted : host .permitted s = some (false, s'))
      : Fails (call target receiver args type true) j s (.notSupported (.callDisabled target))
        (j.report (EvalError.notSupported (.callDisabled target)).message) s'
  | called (hcall : Calls host source n j s c j₁ s₁) (hfails : c.Fails host s₁ err s')
      : Fails n j s err (j₁.report err.message) s'

end

variable {host : Host σ} {source : Source} {e n m : Expr} {j j' j₁ : Journal} {s s' s₁ : σ}

theorem Reaches.trans {path rest : List Position} (hfirst : Reaches host source e j s path n j₁ s₁)
    (hrest : Reaches host source n j₁ s₁ rest m j' s')
    : Reaches host source e j s (path ++ rest) m j' s' := by
  induction hfirst with
  | here => exact hrest
  | recorded _ ih => exact .recorded (ih hrest)
  | first _ ih => exact .first (ih hrest)
  | second hleft htest _ ih => exact .second hleft htest (ih hrest)
  | receiver hpermitted _ ih => exact .receiver hpermitted (ih hrest)
  | argument hpermitted hreceiver hbefore _ ih =>
    exact .argument hpermitted hreceiver hbefore (ih hrest)

theorem Reaches.eq_of_argless {target : String} {type : TypeSignature} {path : List Position}
    (hreach : Reaches host source (call target none [] type true) j s path n j' s')
    : n = call target none [] type true ∧ j' = j ∧ s' = s := by
  generalize he : call target none [] type true = e at hreach
  cases hreach with
  | here => exact ⟨rfl, rfl, rfl⟩
  | recorded | first | second => contradiction
  | receiver | argument => simp at he

theorem origin_of_error {err : EvalError}
    (hrun : Dialogue.run host (e.evaluate source) j s = some (.error err, j', s'))
    : ∃ path n j₁ s₁ j₂, Reaches host source e j s path n j₁ s₁
        ∧ Fails host source n j₁ s₁ err j₂ s' ∧ j' = j₂.backOut path := by
  induction e using induction generalizing j j' s s' with
  | literal l =>
    unfold evaluate at hrun
    obtain ⟨hok, _⟩ := Evaluation.run_pure_inv hrun
    contradiction
  | remote v type =>
    unfold evaluate at hrun
    obtain ⟨hok, _⟩ := Evaluation.run_pure_inv hrun
    contradiction
  | failing type e =>
    unfold evaluate at hrun
    obtain ⟨herr, rfl, rfl⟩ := Dialogue.run_done_inv hrun
    cases herr
    exact ⟨[], _, j', s', j', .here, .carried, rfl⟩
  | recorded id e ih =>
    unfold evaluate Dialogue.run at hrun
    obtain ⟨path, n, j₁, s₁, j₂, hreach, hfails, rfl⟩ := ih hrun
    exact ⟨path, n, j₁, s₁, j₂, .recorded hreach, hfails, rfl⟩
  | binary op left right b ihl ihr =>
    cases b with
    | none =>
      unfold evaluate at hrun
      obtain ⟨herr, rfl, rfl⟩ := Dialogue.run_done_inv hrun
      cases herr
      exact ⟨[], _, j', s', j', .here, .unbound, rfl⟩
    | some b =>
      -- An operand that failed has an origin of its own, one step further along the path.
      cases binaryRun hrun with
      | firstFailed hleft =>
        obtain ⟨path, n, j₁, s₁, j₂, hreach, hfails, rfl⟩ := ihl hleft
        exact ⟨_, n, j₁, s₁, j₂, .first hreach, hfails, rfl⟩
      | undecided hleft htest => exact ⟨[], _, j, s, j', .here, .undecided hleft htest, rfl⟩
      | secondFailed hleft htest hright =>
        obtain ⟨path, n, j₁, s₁, j₂, hreach, hfails, rfl⟩ := ihr hright
        exact ⟨_, n, j₁, s₁, j₂, .second hleft htest hreach, hfails, rfl⟩
      | operated hoperands hcompute =>
        exact ⟨[], _, j, s, j', .here, .computation hoperands hcompute, rfl⟩
  | call target receiver args type compiled iho iha =>
    cases compiled with
    | false =>
      unfold evaluate at hrun
      obtain ⟨herr, rfl, rfl⟩ := Dialogue.run_done_inv hrun
      cases herr
      exact ⟨[], _, j', s', j', .here, .uncompiled, rfl⟩
    | true =>
      cases callRun hrun with
      | disabled hpermitted => exact ⟨[], _, j, s, _, .here, .disabled hpermitted, rfl⟩
      | receiverFailed hpermitted hmem he =>
        obtain ⟨path, n, j₁, s₁, j₂, hreach, hfails, rfl⟩ := iho _ hmem he
        subst hmem
        exact ⟨_, n, j₁, s₁, j₂, .receiver hpermitted hreach, hfails, rfl⟩
      | argumentFailed hpermitted hreceiver hmem hbefore he =>
        subst hmem
        obtain ⟨path, n, j₁, s₁, j₂, hreach, hfails, rfl⟩ := iha _ (by simp) he
        exact ⟨_, n, j₁, s₁, j₂, .argument hpermitted hreceiver hbefore hreach, hfails, rfl⟩
      | failed hcall hfails => exact ⟨[], _, j, s, _, .here, .called hcall hfails, rfl⟩

end Expr

end Inspector
