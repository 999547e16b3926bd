import Inspector.Proofs.Expr.Failure

/-!
What a compilation complains of. The nodes of a tree are compiled in postorder: the operands of a
node, in their order, and then the node. The first one at fault is the one that is told, once, and
those behind it that are not around it are as they were.
-/

namespace Inspector

theorem Kind.promote_error {l r : Kind} {err : EvalError} (herr : l.promote r = .error err)
    : err.isCompileError = true := by
  cases l <;> cases r <;> first
    | contradiction
    | cases herr
      rfl

theorem Operator.bind_error {op : Operator} {l r : TypeSignature} {err : EvalError}
    (herr : op.bind l r = .error err) : err.isCompileError = true := by
  have hpromoted {f : NumKind → Binding}
      (herr : (l.kind.promote r.kind >>= fun k => pure (f k)) = .error err)
      : err.isCompileError = true := by
    cases hpromote : l.kind.promote r.kind with
    | ok k =>
      rw [hpromote] at herr
      contradiction
    | error e =>
      rw [hpromote] at herr
      cases herr
      exact Kind.promote_error hpromote
  unfold bind at herr
  dsimp only at herr
  -- What is not an error of promotion is told of both operands.
  split at herr <;> repeat' split at herr
  all_goals first
    | contradiction
    | exact hpromoted herr
    | cases herr
      rfl

namespace Expr

mutual

def resolve (ctx : Context) : Expr → Option TypeSignature
  | literal l => some l.type
  | remote _ type | failing type _ => some type
  | recorded _ e => e.resolve ctx
  | binary op left right _ => do
    let l ← left.resolve ctx
    let r ← right.resolve ctx
    match op.bind l r with
    | .ok b => some b.type
    | .error _ => none
  | call target receiver args _ _ =>
    if resolvesOption ctx receiver && resolvesList ctx args then ctx target else none

def resolvesOption (ctx : Context) : Option Expr → Bool
  | none => true
  | some e => (e.resolve ctx).isSome

def resolvesList (ctx : Context) : List Expr → Bool
  | [] => true
  | e :: es => (e.resolve ctx).isSome && resolvesList ctx es

end

/-- A node is at fault by itself: its operands have types, and it cannot be resolved for them. -/
inductive Faulty (ctx : Context) : Expr → EvalError → Prop where
  | binary (hleft : left.resolve ctx = some l) (hright : right.resolve ctx = some r)
      (hbind : op.bind l r = .error err) : Faulty ctx (binary op left right bound) err
  | call {type : TypeSignature} (hreceiver : ∀ e, receiver = some e → ∃ t, e.resolve ctx = some t)
      (hargs : ∀ e ∈ args, ∃ t, e.resolve ctx = some t) (htarget : ctx target = none)
      : Faulty ctx (call target receiver args type compiled)
          (.notSupported (.unresolvedCall target))

structure Node where
  path : List Nat
  expr : Expr

def Node.under (i : Nat) (n : Node) : Node := ⟨i :: n.path, n.expr⟩

mutual

def postorder : Expr → List Node
  | literal l => [⟨[], literal l⟩]
  | remote v type => [⟨[], remote v type⟩]
  | failing type err => [⟨[], failing type err⟩]
  | recorded id e => e.postorder.map (.under 0) ++ [⟨[], recorded id e⟩]
  | binary op left right b =>
    left.postorder.map (.under 0) ++ right.postorder.map (.under 1) ++
      [⟨[], binary op left right b⟩]
  | call target receiver args type compiled =>
    postorderOption receiver ++ postorderList 1 args ++
      [⟨[], call target receiver args type compiled⟩]

def postorderOption : Option Expr → List Node
  | none => []
  | some e => e.postorder.map (.under 0)

def postorderList (i : Nat) : List Expr → List Node
  | [] => []
  | e :: es => e.postorder.map (.under i) ++ postorderList (i + 1) es

end

/-- Nodes are in different places, and none comes before one that it is around. -/
def Ordered (nodes : List Node) : Prop := nodes.Pairwise fun n m => ¬n.path <+: m.path

inductive Diagnosed (ctx : Context) (nodes nodes' : List Node) (sink : Sink)
    : Sink → Except EvalError Unit → Prop where
  | done (hclean : ∀ n ∈ nodes, ∀ err, ¬n.expr.Faulty ctx err)
      : Diagnosed ctx nodes nodes' sink sink (.ok ())
  | failed (hnodes : nodes = before ++ n :: after)
      (hbefore : ∀ m ∈ before, ∀ err, ¬m.expr.Faulty ctx err) (hfaulty : n.expr.Faulty ctx err)
      (hafter : ∀ m ∈ after, ¬m.path <+: n.path → m ∈ nodes')
      : Diagnosed ctx nodes nodes' sink (sink.fail err) (.error err)

variable {ctx : Context} {nodes nodes' rest rest' : List Node} {sink sink₁ sink' : Sink}
  {err : EvalError} {res : Except EvalError Unit}

namespace Diagnosed

theorem under (hdiagnosed : Diagnosed ctx nodes nodes' sink sink' res) (i : Nat)
    : Diagnosed ctx (nodes.map (.under i)) (nodes'.map (.under i)) sink sink' res := by
  cases hdiagnosed with
  | done hclean =>
    apply done
    simpa [Node.under] using hclean
  | @failed before n after err hnodes hbefore hfaulty hafter =>
    have hnodes : nodes.map (.under i) =
        before.map (.under i) ++ n.under i :: after.map (.under i) := by simp [hnodes]
    apply failed hnodes
    · simpa [Node.under] using hbefore
    · exact hfaulty
    · intro _ hunder hpath
      obtain ⟨m, hm, rfl⟩ := List.mem_map.mp hunder
      apply List.mem_map_of_mem
      apply hafter m hm
      simpa [Node.under] using hpath

theorem stop (hfailed : Diagnosed ctx nodes nodes' sink sink' (.error err)) (rest : List Node)
    : Diagnosed ctx (nodes ++ rest) (nodes' ++ rest) sink sink' (.error err) := by
  cases hfailed with
  | @failed before n after _ hnodes hbefore hfaulty hafter =>
    have hnodes : nodes ++ rest = before ++ n :: (after ++ rest) := by simp [hnodes]
    apply failed hnodes hbefore hfaulty
    intro m hm hpath
    obtain hm | hm := List.mem_append.mp hm
    · exact List.mem_append_left _ (hafter m hm hpath)
    · exact List.mem_append_right _ hm

theorem next (hdone : Diagnosed ctx nodes nodes' sink sink₁ (.ok ()))
    (hrest : Diagnosed ctx rest rest' sink₁ sink' res)
    : Diagnosed ctx (nodes ++ rest) (nodes' ++ rest') sink sink' res := by
  cases hdone with
  | done hclean =>
    cases hrest with
    | done hclean' =>
      apply done
      intro n hn
      exact (List.mem_append.mp hn).elim (hclean n) (hclean' n)
    | @failed before n after _ hnodes hbefore hfaulty hafter =>
      have hnodes : nodes ++ rest = (nodes ++ before) ++ n :: after := by simp [hnodes]
      apply failed hnodes _ hfaulty
      · intro m hm hpath
        exact List.mem_append_right _ (hafter m hm hpath)
      · intro m hm
        exact (List.mem_append.mp hm).elim (hclean m) (hbefore m)

theorem back (hfailed : Diagnosed ctx nodes nodes' sink sink' (.error err)) (e e' : Expr)
    : Diagnosed ctx (nodes ++ [⟨[], e⟩]) (nodes' ++ [⟨[], e'⟩]) sink sink' (.error err) := by
  cases hfailed with
  | @failed before n after _ hnodes hbefore hfaulty hafter =>
    have hnodes : nodes ++ [⟨[], e⟩] = before ++ n :: (after ++ [⟨[], e⟩]) := by simp [hnodes]
    apply failed hnodes hbefore hfaulty
    intro m hm hpath
    obtain hm | hm := List.mem_append.mp hm
    · exact List.mem_append_left _ (hafter m hm hpath)
    · cases List.mem_singleton.mp hm
      exact absurd List.nil_prefix hpath

theorem here_done {e : Expr} (hclean : ∀ err, ¬e.Faulty ctx err)
    : Diagnosed ctx [⟨[], e⟩] nodes' sink sink (.ok ()) := by
  apply done
  intro n hn
  cases List.mem_singleton.mp hn
  exact hclean

theorem here_failed {e : Expr} (hfaulty : e.Faulty ctx err)
    : Diagnosed ctx [⟨[], e⟩] nodes' sink (sink.fail err) (.error err) := by
  have hnodes : [(⟨[], e⟩ : Node)] = [] ++ ⟨[], e⟩ :: [] := rfl
  exact failed hnodes (by simp) hfaulty (by simp)

end Diagnosed

theorem path_of_mem_under {i : Nat} {n : Node} (hn : n ∈ nodes.map (.under i))
    : ∃ p, n.path = i :: p := by
  obtain ⟨m, _, rfl⟩ := List.mem_map.mp hn
  exact ⟨m.path, rfl⟩

theorem path_of_mem_postorderOption {receiver : Option Expr} {n : Node}
    (hn : n ∈ postorderOption receiver) : ∃ p, n.path = 0 :: p := by
  cases receiver with
  | none => contradiction
  | some e => exact path_of_mem_under hn

theorem path_of_mem_postorderList {i : Nat} {args : List Expr} {n : Node}
    (hn : n ∈ postorderList i args) : ∃ k p, i ≤ k ∧ n.path = k :: p := by
  induction args generalizing i with
  | nil => contradiction
  | cons e es ih =>
    obtain hn | hn := List.mem_append.mp hn
    · obtain ⟨p, hp⟩ := path_of_mem_under hn
      exact ⟨i, p, Nat.le_refl i, hp⟩
    · obtain ⟨k, p, hk, hp⟩ := ih hn
      exact ⟨k, p, by omega, hp⟩

namespace Ordered

theorem under (hordered : Ordered nodes) (i : Nat) : Ordered (nodes.map (.under i)) := by
  apply List.pairwise_map.mpr
  apply hordered.imp
  intro n m hpath
  simpa [Node.under] using hpath

theorem append (hnodes : Ordered nodes) (hrest : Ordered rest)
    (hapart : ∀ n ∈ nodes, ∀ m ∈ rest, ∃ i k p q, i ≠ k ∧ n.path = i :: p ∧ m.path = k :: q)
    : Ordered (nodes ++ rest) := by
  apply List.pairwise_append.mpr
  refine ⟨hnodes, hrest, fun n hn m hm => ?_⟩
  obtain ⟨i, k, p, q, hne, hp, hq⟩ := hapart n hn m hm
  rw [hp, hq, List.cons_prefix_cons]
  exact fun hprefix => hne hprefix.1

theorem root (hnodes : Ordered nodes) (hbelow : ∀ n ∈ nodes, ∃ i p, n.path = i :: p) (e : Expr)
    : Ordered (nodes ++ [⟨[], e⟩]) := by
  apply List.pairwise_append.mpr
  refine ⟨hnodes, List.pairwise_singleton _ _, fun n hn m hm => ?_⟩
  obtain ⟨i, p, hp⟩ := hbelow n hn
  cases List.mem_singleton.mp hm
  rw [hp]
  simp

end Ordered

theorem ordered_postorderList (i : Nat) {args : List Expr}
    (hargs : ∀ e ∈ args, Ordered e.postorder) : Ordered (postorderList i args) := by
  induction args generalizing i with
  | nil => exact .nil
  | cons e es ih =>
    simp only [List.mem_cons, forall_eq_or_imp] at hargs
    apply (hargs.1.under i).append (ih (i + 1) hargs.2)
    intro n hn m hm
    obtain ⟨p, hp⟩ := path_of_mem_under hn
    obtain ⟨k, q, hk, hq⟩ := path_of_mem_postorderList hm
    exact ⟨i, k, p, q, by omega, hp, hq⟩

theorem ordered_postorder (e : Expr) : Ordered e.postorder := by
  induction e using induction with
  | literal | remote | failing => exact List.pairwise_singleton _ _
  | recorded id e ih =>
    apply (ih.under 0).root
    intro n hn
    exact ⟨0, path_of_mem_under hn⟩
  | binary op left right b hleft hright =>
    apply Ordered.root
    · apply (hleft.under 0).append (hright.under 1)
      intro n hn m hm
      obtain ⟨p, hp⟩ := path_of_mem_under hn
      obtain ⟨q, hq⟩ := path_of_mem_under hm
      exact ⟨0, 1, p, q, by decide, hp, hq⟩
    · intro n hn
      exact (List.mem_append.mp hn).elim (fun hn => ⟨0, path_of_mem_under hn⟩)
        fun hn => ⟨1, path_of_mem_under hn⟩
  | call target receiver args type compiled hreceiver hargs =>
    have hfirst : Ordered (postorderOption receiver) := by
      cases receiver with
      | none => exact .nil
      | some e => exact (hreceiver e rfl).under 0
    apply Ordered.root
    · apply hfirst.append (ordered_postorderList 1 hargs)
      intro n hn m hm
      obtain ⟨p, hp⟩ := path_of_mem_postorderOption hn
      obtain ⟨k, q, hk, hq⟩ := path_of_mem_postorderList hm
      exact ⟨0, k, p, q, by omega, hp, hq⟩
    · intro n hn
      obtain hn | hn := List.mem_append.mp hn
      · exact ⟨0, path_of_mem_postorderOption hn⟩
      · obtain ⟨k, p, _, hp⟩ := path_of_mem_postorderList hn
        exact ⟨k, p, hp⟩

theorem resolvesOption_iff {receiver : Option Expr}
    : resolvesOption ctx receiver = true ↔
        ∀ e, receiver = some e → ∃ t, e.resolve ctx = some t := by
  cases receiver <;> simp [resolvesOption, Option.isSome_iff_exists]

theorem resolvesList_iff {args : List Expr}
    : resolvesList ctx args = true ↔ ∀ e ∈ args, ∃ t, e.resolve ctx = some t := by
  induction args with
  | nil => simp [resolvesList]
  | cons e es ih => simp [resolvesList, ih, Option.isSome_iff_exists]

def Compiled.type? (c : Compiled Expr) : Option TypeSignature :=
  match c.result with
  | .ok () => some c.tree.type
  | .error _ => none

mutual

theorem resolve_eq : (e : Expr) → (sink : Sink) → e.resolve ctx = (e.compile ctx sink).type?
  | .literal l, _ | .remote v type, _ | .failing type err, _ => rfl
  | .recorded id e, sink => resolve_eq e sink
  | .binary op left right b, sink => by
    unfold compile resolve
    rw [resolve_eq left sink, resolve_eq right (left.compile ctx sink).sink]
    unfold Compiled.type?
    dsimp only
    cases (left.compile ctx sink).result with
    | error => rfl
    | ok =>
      dsimp only
      cases (right.compile ctx (left.compile ctx sink).sink).result with
      | error => rfl
      | ok =>
        simp only [Option.bind_eq_bind, Option.bind_some]
        cases op.bind _ _ <;> rfl
  | .call target receiver args type compiled, sink => by
    unfold compile resolve
    rw [resolvesOption_eq receiver sink,
      resolvesList_eq args (compileOption ctx sink receiver).sink]
    unfold Compiled.type?
    dsimp only
    cases (compileOption ctx sink receiver).result with
    | error => rfl
    | ok =>
      dsimp only
      cases (compileList ctx (compileOption ctx sink receiver).sink args).result with
      | error => rfl
      | ok => cases ctx target <;> rfl

theorem resolvesOption_eq : (receiver : Option Expr) → (sink : Sink)
    → resolvesOption ctx receiver = (compileOption ctx sink receiver).result.isOk
  | none, _ => rfl
  | some e, sink => by
    unfold resolvesOption compileOption
    rw [resolve_eq e sink]
    unfold Compiled.type?
    cases (e.compile ctx sink).result <;> rfl

theorem resolvesList_eq : (args : List Expr) → (sink : Sink)
    → resolvesList ctx args = (compileList ctx sink args).result.isOk
  | [], _ => rfl
  | e :: es, sink => by
    unfold resolvesList compileList
    rw [resolve_eq e sink, resolvesList_eq es (e.compile ctx sink).sink]
    unfold Compiled.type?
    dsimp only
    cases (e.compile ctx sink).result <;> rfl

end

theorem resolve_of_ok {e : Expr} (hok : (e.compile ctx sink).result = .ok ())
    : e.resolve ctx = some (e.compile ctx sink).tree.type := by
  rw [resolve_eq e sink]
  unfold Compiled.type?
  rw [hok]

theorem resolves_of_ok {receiver : Option Expr} {args : List Expr}
    (hreceiver : (compileOption ctx sink receiver).result = .ok ())
    (hargs : (compileList ctx sink₁ args).result = .ok ())
    : (∀ e, receiver = some e → ∃ t, e.resolve ctx = some t) ∧
        ∀ e ∈ args, ∃ t, e.resolve ctx = some t := by
  rw [← resolvesOption_iff, ← resolvesList_iff, resolvesOption_eq receiver sink,
    resolvesList_eq args sink₁, hreceiver, hargs]
  exact ⟨rfl, rfl⟩

mutual

theorem diagnosed : (e : Expr) → (sink : Sink) →
    let c := e.compile ctx sink
    Diagnosed ctx e.postorder c.tree.postorder sink c.sink c.result
  | .literal l, _ | .remote v type, _ | .failing type err, _ => .here_done fun _ => nofun
  | .recorded id e, sink => by
    have he := (diagnosed e sink).under 0
    unfold compile postorder
    dsimp only
    cases hresult : (e.compile ctx sink).result with
    | error err =>
      rw [hresult] at he
      exact he.back _ _
    | ok =>
      rw [hresult] at he
      exact he.next (.here_done fun _ => nofun)
  | .binary op left right b, sink => by
    have hleft := (diagnosed left sink).under 0
    have hright := (diagnosed right (left.compile ctx sink).sink).under 1
    unfold compile postorder
    dsimp only
    cases hl : (left.compile ctx sink).result with
    | error err =>
      rw [hl] at hleft
      exact (hleft.stop _).back _ _
    | ok =>
      rw [hl] at hleft
      dsimp only
      cases hr : (right.compile ctx (left.compile ctx sink).sink).result with
      | error err =>
        rw [hr] at hright
        exact (hleft.next hright).back _ _
      | ok =>
        rw [hr] at hright
        have hoperands := hleft.next hright
        have hl := resolve_of_ok hl
        have hr := resolve_of_ok hr
        dsimp only
        cases hbind : op.bind (left.compile ctx sink).tree.type
            (right.compile ctx (left.compile ctx sink).sink).tree.type with
        | error err => exact hoperands.next (.here_failed (.binary hl hr hbind))
        | ok bound =>
          apply hoperands.next
          apply Diagnosed.here_done
          intro err hfaulty
          cases hfaulty with
          | binary hl' hr' hbind' =>
            cases hl.symm.trans hl'
            cases hr.symm.trans hr'
            cases hbind.symm.trans hbind'
  | .call target receiver args type compiled, sink => by
    have hreceiver := diagnosedOption receiver sink
    have hargs := diagnosedList 1 args (compileOption ctx sink receiver).sink
    unfold compile postorder
    dsimp only at hreceiver hargs ⊢
    cases ho : (compileOption ctx sink receiver).result with
    | error err =>
      rw [ho] at hreceiver
      exact (hreceiver.stop _).back _ _
    | ok =>
      rw [ho] at hreceiver
      dsimp only
      cases ha : (compileList ctx (compileOption ctx sink receiver).sink args).result with
      | error err =>
        rw [ha] at hargs
        exact (hreceiver.next hargs).back _ _
      | ok =>
        rw [ha] at hargs
        have hoperands := hreceiver.next hargs
        obtain ⟨hreceiver, hargs⟩ := resolves_of_ok ho ha
        dsimp only
        cases htarget : ctx target with
        | none => exact hoperands.next (.here_failed (.call hreceiver hargs htarget))
        | some t =>
          apply hoperands.next
          apply Diagnosed.here_done
          intro err hfaulty
          cases hfaulty with
          | call _ _ hnone => cases htarget.symm.trans hnone

theorem diagnosedOption : (receiver : Option Expr) → (sink : Sink) →
    let c := compileOption ctx sink receiver
    Diagnosed ctx (postorderOption receiver) (postorderOption c.tree) sink c.sink c.result
  | none, _ => .done (by simp [postorderOption])
  | some e, sink => (diagnosed e sink).under 0

theorem diagnosedList : (i : Nat) → (args : List Expr) → (sink : Sink) →
    let c := compileList ctx sink args
    Diagnosed ctx (postorderList i args) (postorderList i c.tree) sink c.sink c.result
  | _, [], _ => .done (by simp [postorderList])
  | i, e :: es, sink => by
    have he := (diagnosed e sink).under i
    unfold compileList postorderList
    dsimp only
    cases hresult : (e.compile ctx sink).result with
    | error err =>
      rw [hresult] at he
      exact he.stop _
    | ok =>
      rw [hresult] at he
      exact he.next (diagnosedList (i + 1) es (e.compile ctx sink).sink)

end

theorem Faulty.isCompileError {e : Expr} (hfaulty : e.Faulty ctx err)
    : err.isCompileError = true := by
  cases hfaulty with
  | binary _ _ hbind => exact Operator.bind_error hbind
  | call => rfl

theorem Diagnosed.failed_iff (hdiagnosed : Diagnosed ctx nodes nodes' sink sink' res)
    : (∃ err, res = .error err) ↔ ∃ n ∈ nodes, ∃ err, n.expr.Faulty ctx err := by
  cases hdiagnosed with
  | done hclean => simpa using hclean
  | @failed before n after err hnodes _ hfaulty _ =>
    refine ⟨fun _ => ⟨n, ?_, err, hfaulty⟩, fun _ => ⟨err, rfl⟩⟩
    simp [hnodes]

theorem Diagnosed.isCompileError (hdiagnosed : Diagnosed ctx nodes nodes' sink sink' (.error err))
    : err.isCompileError = true := by
  cases hdiagnosed with
  | failed _ _ hfaulty _ => exact hfaulty.isCompileError

theorem compile_diagnosed (ctx : Context) (e : Expr) (sink : Sink)
    : let c := e.compile ctx sink
      Ordered e.postorder ∧ Ordered c.tree.postorder ∧
        Diagnosed ctx e.postorder c.tree.postorder sink c.sink c.result ∧
        (∀ err, c.result = .error err → err.isCompileError = true) ∧
        ((∃ err, c.result = .error err) ↔ ∃ n ∈ e.postorder, ∃ err, n.expr.Faulty ctx err) ∧
        e.resolve ctx = c.type? := by
  intro c
  have hdiagnosed : Diagnosed ctx e.postorder c.tree.postorder sink c.sink c.result :=
    diagnosed e sink
  refine ⟨ordered_postorder e, ordered_postorder c.tree, hdiagnosed, fun err herr => ?_,
    hdiagnosed.failed_iff, resolve_eq e sink⟩
  rw [herr] at hdiagnosed
  exact hdiagnosed.isCompileError

end Expr

end Inspector
