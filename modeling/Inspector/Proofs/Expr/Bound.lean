import Inspector.Proofs.Expr.Failure

/-!
Trees as a successful compilation leaves them: every operator is bound to the types of its operands
and every call is compiled.
-/

namespace Inspector

namespace Expr

inductive Bound : Expr → Prop where
  | literal : Bound (literal l)
  | remote {type : TypeSignature} : Bound (remote v type)
  | failing {type : TypeSignature} : Bound (failing type err)
  | recorded {id : String} (hinner : Bound e) : Bound (recorded id e)
  | binary (hleft : Bound left) (hright : Bound right)
      (hbind : op.bind left.type right.type = .ok b) : Bound (binary op left right (some b))
  | call {type : TypeSignature} (hreceiver : ∀ e, receiver = some e → Bound e)
      (hargs : ∀ e ∈ args, Bound e) : Bound (call target receiver args type true)

variable {ctx : Context}

mutual

theorem bound_of_compile {sink : Sink}
    : (e : Expr) → (e.compile ctx sink).result = .ok () → (e.compile ctx sink).tree.Bound
  | .literal l, _ => .literal
  | .remote v type, _ => .remote
  | .failing type err, _ => .failing
  | .recorded id e, hok => .recorded (bound_of_compile e hok)
  | .binary op left right b, hok => by
    unfold compile at hok ⊢
    dsimp only at hok ⊢
    split at hok
    next => contradiction
    next hleft =>
      split at hok
      next => contradiction
      next hright =>
        split at hok
        next => contradiction
        next b hbind =>
          exact .binary (bound_of_compile left hleft) (bound_of_compile right hright) hbind
  | .call target receiver args type compiled, hok => by
    unfold compile at hok ⊢
    dsimp only at hok ⊢
    split at hok
    next => contradiction
    next hreceiver =>
      split at hok
      next => contradiction
      next hargs =>
        split at hok
        next => contradiction
        next type htype =>
          exact .call (bound_of_compileOption receiver hreceiver) (bound_of_compileList args hargs)

theorem bound_of_compileOption {sink : Sink} : (receiver : Option Expr)
    → (compileOption ctx sink receiver).result = .ok ()
    → ∀ e, (compileOption ctx sink receiver).tree = some e → e.Bound
  | none, _, _, he => by contradiction
  | some e, hok, n, he => by
    unfold compileOption at he
    cases he
    exact bound_of_compile e hok

theorem bound_of_compileList {sink : Sink} : (args : List Expr)
    → (compileList ctx sink args).result = .ok ()
    → ∀ e ∈ (compileList ctx sink args).tree, e.Bound
  | [], _, _, he => by contradiction
  | e :: es, hok, n, hn => by
    unfold compileList at hok hn
    dsimp only at hok hn
    split at hok
    next => contradiction
    next he =>
      simp only [he, List.mem_cons] at hn
      obtain rfl | hn := hn
      · exact bound_of_compile e he
      · exact bound_of_compileList es hok n hn

end

variable {σ : Type} {host : Host σ} {source : Source} {j j' : Journal} {s s' : σ}

theorem Bound.reached {e n : Expr} {path : List Position} (hbound : e.Bound)
    (hreach : Reaches host source e j s path n j' s') : n.Bound := by
  induction hreach with
  | here => exact hbound
  | recorded _ ih =>
    cases hbound with
    | recorded hinner => exact ih hinner
  | first _ ih =>
    cases hbound with
    | binary hleft _ _ => exact ih hleft
  | second _ _ _ ih =>
    cases hbound with
    | binary _ hright _ => exact ih hright
  | receiver _ _ ih =>
    cases hbound with
    | call hreceiver _ => exact ih (hreceiver _ rfl)
  | argument _ _ _ _ ih =>
    cases hbound with
    | call _ hargs => exact ih (hargs _ (by simp))

end Expr

end Inspector
