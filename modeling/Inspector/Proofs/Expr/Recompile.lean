import Inspector.Proofs.Expr.Failure

/-!
Trees that are compiled more than once. Whatever earlier compilations have left in a tree, the next
one takes no notice of it; and if that one fails, nobody gets to see what they have left.
-/

namespace Inspector

def Sink.GrowAlike (sink sink' sink₀ sink₀' : Sink) : Prop :=
  ∃ new, sink'.messages = sink.messages ++ new ∧ sink₀'.messages = sink₀.messages ++ new

namespace Sink.GrowAlike

variable {sink sink₁ sink' sink₀ sink₀₁ sink₀' : Sink}

theorem refl : GrowAlike sink sink sink₀ sink₀ := ⟨[], by simp⟩

theorem trans (hfirst : GrowAlike sink sink₁ sink₀ sink₀₁)
    (hlater : GrowAlike sink₁ sink' sink₀₁ sink₀') : GrowAlike sink sink' sink₀ sink₀' := by
  obtain ⟨new, hnew, hnew₀⟩ := hfirst
  obtain ⟨more, hmore, hmore₀⟩ := hlater
  refine ⟨new ++ more, ?_, ?_⟩
  · rw [hmore, hnew, List.append_assoc]
  · rw [hmore₀, hnew₀, List.append_assoc]

theorem fail (err : EvalError) : GrowAlike sink (sink.fail err) sink₀ (sink₀.fail err) :=
  ⟨[err.message], rfl, rfl⟩

end Sink.GrowAlike

namespace Expr

mutual

def fresh : Expr → Expr
  | literal l => literal l
  | remote v type => remote v type
  | failing type err => failing type err
  | recorded id e => recorded id e.fresh
  | binary op left right _ => apply op left.fresh right.fresh
  | call target receiver args _ _ => invoke target (freshOption receiver) (freshList args)

def freshOption : Option Expr → Option Expr
  | none => none
  | some e => some e.fresh

def freshList : List Expr → List Expr
  | [] => []
  | e :: es => e.fresh :: freshList es

end

variable {ctx : Context} {sink sink₀ : Sink}

mutual

theorem fresh_compile : (e : Expr) → {sink : Sink} → (e.compile ctx sink).tree.fresh = e.fresh
  | .literal l, _ => rfl
  | .remote v type, _ => rfl
  | .failing type err, _ => rfl
  | .recorded id e, _ => congrArg (recorded id) (fresh_compile e)
  | .binary op left right b, _ => by
    unfold compile
    dsimp only
    split
    next => simp only [fresh, fresh_compile left]
    next =>
      split
      next => simp only [fresh, fresh_compile left, fresh_compile right]
      next =>
        split <;> simp only [fresh, fresh_compile left, fresh_compile right]
  | .call target receiver args type compiled, _ => by
    unfold compile
    dsimp only
    split
    next => simp only [fresh, freshOption_compile receiver]
    next =>
      split
      next => simp only [fresh, freshOption_compile receiver, freshList_compile args]
      next =>
        split <;> simp only [fresh, freshOption_compile receiver, freshList_compile args]

theorem freshOption_compile : (receiver : Option Expr) → {sink : Sink}
    → freshOption (compileOption ctx sink receiver).tree = freshOption receiver
  | none, _ => rfl
  | some e, _ => congrArg some (fresh_compile e)

theorem freshList_compile : (args : List Expr) → {sink : Sink}
    → freshList (compileList ctx sink args).tree = freshList args
  | [], _ => rfl
  | e :: es, _ => by
    unfold compileList
    dsimp only
    split <;> simp only [freshList, fresh_compile e, freshList_compile es]

end

structure Alike {α : Type} (sink sink₀ : Sink) (c c₀ : Compiled α) : Prop where
  result : c.result = c₀.result
  sinks : Sink.GrowAlike sink c.sink sink₀ c₀.sink
  tree : c.result = .ok () → c.tree = c₀.tree
  quiet : c.result = .ok () → c.sink = sink

theorem Alike.failed {α : Type} {t t₀ : α} {sink' sink₀' : Sink} {err : EvalError}
    (hsinks : Sink.GrowAlike sink sink' sink₀ sink₀')
    : Alike sink sink₀ ⟨t, sink', .error err⟩ ⟨t₀, sink₀', .error err⟩ :=
  ⟨rfl, hsinks, fun hok => by contradiction, fun hok => by contradiction⟩

mutual

theorem compile_fresh : (e : Expr) → (sink sink₀ : Sink)
    → Alike sink sink₀ (e.compile ctx sink) (e.fresh.compile ctx sink₀)
  | .literal l, _, _ | .remote v type, _, _ | .failing type err, _, _ =>
    ⟨rfl, .refl, fun _ => rfl, fun _ => rfl⟩
  | .recorded id e, sink, sink₀ =>
    have he := compile_fresh e sink sink₀
    ⟨he.result, he.sinks, fun hok => congrArg (recorded id) (he.tree hok), he.quiet⟩
  | .binary op left right b, sink, sink₀ => by
    have hleft := compile_fresh left sink sink₀
    unfold fresh apply compile
    dsimp only
    rw [← hleft.result]
    cases hl : (left.compile ctx sink).result with
    | error err => exact .failed hleft.sinks
    | ok =>
      have hright := compile_fresh right (left.compile ctx sink).sink
        (left.fresh.compile ctx sink₀).sink
      have hsinks := hleft.sinks.trans hright.sinks
      dsimp only
      rw [← hright.result]
      cases hr : (right.compile ctx (left.compile ctx sink).sink).result with
      | error err => exact .failed hsinks
      | ok =>
        dsimp only
        rw [← hleft.tree hl, ← hright.tree hr]
        split
        next err _ => exact .failed (hsinks.trans (.fail err))
        next =>
          exact ⟨rfl, hsinks, fun _ => rfl, fun _ => (hright.quiet hr).trans (hleft.quiet hl)⟩
  | .call target receiver args type compiled, sink, sink₀ => by
    have hreceiver := compileOption_fresh receiver sink sink₀
    unfold fresh invoke compile
    dsimp only
    rw [← hreceiver.result]
    cases ho : (compileOption ctx sink receiver).result with
    | error err => exact .failed hreceiver.sinks
    | ok =>
      have hargs := compileList_fresh args (compileOption ctx sink receiver).sink
        (compileOption ctx sink₀ (freshOption receiver)).sink
      have hsinks := hreceiver.sinks.trans hargs.sinks
      dsimp only
      rw [← hargs.result]
      cases ha : (compileList ctx (compileOption ctx sink receiver).sink args).result with
      | error err => exact .failed hsinks
      | ok =>
        dsimp only
        rw [← hreceiver.tree ho, ← hargs.tree ha]
        split
        next => exact .failed (hsinks.trans (.fail _))
        next =>
          exact ⟨rfl, hsinks, fun _ => rfl, fun _ => (hargs.quiet ha).trans (hreceiver.quiet ho)⟩

theorem compileOption_fresh : (receiver : Option Expr) → (sink sink₀ : Sink)
    → Alike sink sink₀ (compileOption ctx sink receiver)
      (compileOption ctx sink₀ (freshOption receiver))
  | none, _, _ => ⟨rfl, .refl, fun _ => rfl, fun _ => rfl⟩
  | some e, sink, sink₀ =>
    have he := compile_fresh e sink sink₀
    ⟨he.result, he.sinks, fun hok => congrArg some (he.tree hok), he.quiet⟩

theorem compileList_fresh : (args : List Expr) → (sink sink₀ : Sink)
    → Alike sink sink₀ (compileList ctx sink args) (compileList ctx sink₀ (freshList args))
  | [], _, _ => ⟨rfl, .refl, fun _ => rfl, fun _ => rfl⟩
  | e :: es, sink, sink₀ => by
    have he := compile_fresh e sink sink₀
    unfold freshList compileList
    dsimp only
    rw [← he.result]
    cases hr : (e.compile ctx sink).result with
    | error err => exact .failed he.sinks
    | ok =>
      have hes := compileList_fresh es (e.compile ctx sink).sink (e.fresh.compile ctx sink₀).sink
      dsimp only
      rw [← he.tree hr]
      exact ⟨hes.result, he.sinks.trans hes.sinks,
        fun hok => congrArg ((e.compile ctx sink).tree :: ·) (hes.tree hok),
        fun hok => (hes.quiet hok).trans (he.quiet hr)⟩

end

def rootLabels : Expr → List String
  | recorded id e => id :: e.rootLabels
  | _ => []

/-- An evaluation says that the tree is not compiled. It asks for nothing and gets to no operand. -/
structure Disabled (e : Expr) (labels : List String) : Prop where
  evaluate : ∀ {σ : Type} (host : Host σ) (source : Source) (j : Journal) (s : σ),
    Dialogue.run host (e.evaluate source) j s =
      some (.error .notCompiled, { j with visits := j.visits ++ labels }, s)
  reaches : ∀ {σ : Type} {host : Host σ} {source : Source} {j j' : Journal} {s s' : σ}
    {path : List Position} {n : Expr}, Reaches host source e j s path n j' s' → path = []

theorem disabled_binary (op : Operator) (left right : Expr)
    : Disabled (binary op left right none) [] where
  evaluate host source j s := by
    unfold evaluate
    rw [List.append_nil]
    rfl
  reaches hreach := by
    cases hreach
    rfl

theorem disabled_call (target : String) (receiver : Option Expr) (args : List Expr)
    (type : TypeSignature) : Disabled (call target receiver args type false) [] where
  evaluate host source j s := by
    unfold evaluate
    rw [List.append_nil]
    rfl
  reaches hreach := by
    cases hreach
    rfl

theorem Disabled.recorded {e : Expr} {labels : List String} (he : e.Disabled labels) (id : String)
    : Disabled (recorded id e) (id :: labels) where
  evaluate host source j s := by
    unfold Expr.evaluate Dialogue.run
    rw [he.evaluate]
    simp [Journal.visit]
  reaches hreach := by
    cases hreach with
    | here => rfl
    | recorded hinner => exact he.reaches hinner

theorem disabled_compile {e : Expr} {err : EvalError}
    (hfailed : (e.compile ctx sink).result = .error err)
    : Disabled (e.compile ctx sink).tree e.rootLabels := by
  induction e using induction with
  | literal | remote | failing => contradiction
  | recorded id e ih => exact (ih hfailed).recorded id
  | binary op left right b =>
    unfold compile at hfailed ⊢
    dsimp only at hfailed ⊢
    split
    next => apply disabled_binary
    next hleft =>
      rw [hleft] at hfailed
      split
      next => apply disabled_binary
      next hright =>
        rw [hright] at hfailed
        split
        next => apply disabled_binary
        next hbind =>
          rw [hbind] at hfailed
          contradiction
  | call target receiver args type compiled =>
    unfold compile at hfailed ⊢
    dsimp only at hfailed ⊢
    split
    next => apply disabled_call
    next hreceiver =>
      rw [hreceiver] at hfailed
      split
      next => apply disabled_call
      next hargs =>
        rw [hargs] at hfailed
        split
        next => apply disabled_call
        next htype =>
          rw [htype] at hfailed
          contradiction

theorem rootLabels_fresh (e : Expr) : e.fresh.rootLabels = e.rootLabels := by
  induction e using induction with
  | recorded id e ih => exact congrArg (id :: ·) ih
  | _ => rfl

theorem compile_again {e : Expr} (hok : (e.compile ctx sink).result = .ok ()) (again : Sink)
    : (e.compile ctx sink).tree.compile ctx again = ⟨(e.compile ctx sink).tree, again, .ok ()⟩ := by
  -- Both compilations come to what a compilation of the tree as it was built comes to.
  have hfirst : Alike sink sink (e.compile ctx sink) _ := compile_fresh e sink sink
  have hsecond : Alike again sink ((e.compile ctx sink).tree.compile ctx again) _ :=
    compile_fresh (e.compile ctx sink).tree again sink
  rw [fresh_compile] at hsecond
  have hresult := hsecond.result.trans (hfirst.result.symm.trans hok)
  have htree := (hsecond.tree hresult).trans (hfirst.tree hok).symm
  have hsink := hsecond.quiet hresult
  generalize hc : (e.compile ctx sink).tree.compile ctx again = c at *
  cases c
  dsimp only at hresult htree hsink
  rw [hresult, htree, hsink]

variable {σ : Type}

/-- A tree is compiled and evaluated as often as anybody likes, and in any order. -/
inductive Used (host : Host σ) (e : Expr) : Expr → Journal → σ → Prop where
  | start (j : Journal) (s : σ) : Used host e e j s
  | compiled (ctx : Context) (hused : Used host e n j s)
      : Used host e (n.compile ctx j.sink).tree { j with sink := (n.compile ctx j.sink).sink } s
  | evaluated (hused : Used host e n j s)
      (hrun : Dialogue.run host (n.evaluate source) j s = some (r, j', s'))
      : Used host e n j' s'

theorem Used.fresh_eq {host : Host σ} {e n : Expr} {j : Journal} {s : σ}
    (hused : Used host e n j s) : n.fresh = e.fresh := by
  induction hused with
  | start => rfl
  | compiled ctx _ ih => exact (fresh_compile _).trans ih
  | evaluated _ _ ih => exact ih

theorem compile_independent (host : Host σ) (e n : Expr) (j : Journal) (s : σ)
    (hused : Used host e n j s) (ctx : Context) (sink sink₀ : Sink)
    : let c := n.compile ctx sink
      let c₀ := e.fresh.compile ctx sink₀
      c.result = c₀.result ∧ sink.GrowAlike c.sink sink₀ c₀.sink ∧
        match c.result with
        | .ok () => c.tree = c₀.tree ∧ ∀ again, c.tree.compile ctx again = ⟨c.tree, again, .ok ()⟩
        | .error _ => c.tree.Disabled e.rootLabels := by
  intro c c₀
  have halike : Alike sink sink₀ c c₀ := by
    unfold c₀
    rw [← hused.fresh_eq]
    apply compile_fresh
  refine ⟨halike.result, halike.sinks, ?_⟩
  split
  next hok => exact ⟨halike.tree hok, compile_again hok⟩
  next err hfailed =>
    rw [← rootLabels_fresh, ← hused.fresh_eq, rootLabels_fresh]
    exact disabled_compile hfailed

theorem compile_independent_disabled
    : let e : Expr := .recorded "sum"
        (.apply .add (.invoke "get_Count") (.literal (.primitive (.int .i32 1))))
      let known : Context := fun _ => some (.of (.int .i32))
      let first := e.compile known {}
      let second := first.tree.compile (fun _ => none) first.sink
      let third := second.tree.compile known second.sink
      let host : Host Unit := fun _ _ => none
      first.result = .ok () ∧ second.result = .error (.notSupported (.unresolvedCall "get_Count")) ∧
        third.result = .ok () ∧
        Used host e second.tree { sink := second.sink, visits := ["sum"] } () ∧
        third.tree = (e.fresh.compile known {}).tree := by
  intro e known first second third host
  have hfirst : Used host e first.tree {} () := .compiled known (.start {} ())
  have hsecond : Used host e second.tree { sink := second.sink } () :=
    .compiled (fun _ => none) hfirst
  have hrun : Dialogue.run host (second.tree.evaluate .attached) { sink := second.sink } () =
      some (.error .notCompiled, { sink := second.sink, visits := ["sum"] }, ()) := rfl
  have hused : Used host e second.tree { sink := second.sink, visits := ["sum"] } () :=
    .evaluated hsecond hrun
  have hthird : third.result = .ok () := rfl
  obtain ⟨_, _, hok⟩ := compile_independent host e second.tree _ () hused known second.sink {}
  exact ⟨rfl, rfl, hthird, hused, hok.1⟩

end Expr

end Inspector
