import Inspector.Expr.Evaluate
import Inspector.Proofs.Computation.Errors
import Inspector.Proofs.Expr.Failure

/-!
Tours. A tour goes through a tree from left to right and depth first: the operands of a node come
before the node, a receiver before the arguments and these before their call, and only a recording
node comes before what it records. A tour ends with the first node that fails. It knows nothing of
sessions: a call is simply run by the debuggee.

Main statement: `Tour.covers` says that the nodes of a tour, with those that a first operand made
it skip, are the nodes of the tree in that order, up to where the tour ends.
-/

namespace Inspector

open Debuggee (Trace)

def Debuggee.reader (d : Debuggee) : Host Trace
  | .readString source a, t => some (d.read source a t)
  | _, _ => none

def Reply.result (target : String) (served : Source) : Reply → Except EvalError Value
  | returned v => .ok (v.wrap served)
  | threw e => .error (.evalFault (.threw target (e.wrap served).type))
  | failed reason => .error (.evalFault (.stated reason))

namespace Expr

mutual

/-- The nodes of a tree, in the order of their turns if none of them fails or is skipped. -/
def order : Expr → List Expr
  | literal l => [literal l]
  | remote v type => [remote v type]
  | failing type err => [failing type err]
  | recorded id e => recorded id e :: e.order
  | binary op left right b => left.order ++ right.order ++ [binary op left right b]
  | call target receiver args type compiled =>
    orderOption receiver ++ orderList args ++ [call target receiver args type compiled]

def orderOption : Option Expr → List Expr
  | none => []
  | some e => e.order

def orderList : List Expr → List Expr
  | [] => []
  | e :: es => e.order ++ orderList es

end

theorem orderOption_eq (receiver : Option Expr)
    : orderOption receiver = orderList receiver.toList := by
  cases receiver with
  | none => rfl
  | some e => simp [orderOption, orderList]

def recorder? : Expr → Option String
  | recorded id _ => some id
  | _ => none

/-- A node has its turn, a call node that comes to its call makes it, or a subtree is skipped. -/
inductive Stop where
  | turn (n : Expr)
  | call (n : Expr) (made : LiveCall)
  | skip (n : Expr)

namespace Stop

def nodes : Stop → List Expr
  | turn n | call n _ => [n]
  | skip n => n.order

def passed : Stop → List Expr
  | skip n => n.order
  | _ => []

def made? : Stop → Option LiveCall
  | call _ made => some made
  | _ => none

def entered : Stop → List Expr
  | turn n | call n _ => [n]
  | skip _ => []

end Stop

def made (stops : List Stop) : List LiveCall := stops.filterMap Stop.made?

def skipped (stops : List Stop) : List Expr := stops.flatMap Stop.passed

def recorders (nodes : List Expr) : List String := nodes.filterMap recorder?

def labels (stops : List Stop) : List String := recorders (stops.flatMap Stop.entered)

inductive Sequence (R : Expr → Trace → List Stop → Except EvalError Value → Trace → Prop)
    : List Expr → Trace → List Stop → Except EvalError (List Value) → Trace → Prop where
  | nil : Sequence R [] t [] (.ok []) t
  | failed (hfirst : R e t stops (.error err) t')
      : Sequence R (e :: es) t stops (.error err) t'
  | cons (hfirst : R e t stops (.ok v) t₁) (hrest : Sequence R es t₁ more r t')
      : Sequence R (e :: es) t (stops ++ more) (r.map (v :: ·)) t'

section

variable (d : Debuggee) (th : Thread) (source served : Source)

inductive Tour : Expr → Trace → List Stop → Except EvalError Value → Trace → Prop where
  | literal : Tour (literal l) t [.turn (literal l)] (.ok l.value) t
  | remote {type : TypeSignature}
      : Tour (remote v type) t [.turn (remote v type)] (.ok (v.wrap source)) t
  | failing {type : TypeSignature}
      : Tour (failing type err) t [.turn (failing type err)] (.error err) t
  | recorded {id : String} (hinner : Tour e t stops r t')
      : Tour (recorded id e) t (.turn (recorded id e) :: stops) r t'
  | unbound : Tour (binary op left right none) t [] (.error .notCompiled) t
  | firstFailed (hleft : Tour left t stops (.error err) t')
      : Tour (binary op left right (some b)) t stops (.error err) t'
  | undecided (hleft : Tour left t stops (.ok v) t') (htest : op.Verdict v (.error err))
      : Tour (binary op left right (some b)) t stops (.error err) t'
  | settled (hleft : Tour left t stops (.ok v) t') (htest : op.Verdict v (.ok (some c)))
      : Tour (binary op left right (some b)) t
        (stops ++ [.skip right] ++ [.turn (binary op left right (some b))]) (.ok (.bool c)) t'
  | secondFailed (hleft : Tour left t stops (.ok v) t₁) (htest : op.Verdict v (.ok none))
      (hright : Tour right t₁ more (.error err) t')
      : Tour (binary op left right (some b)) t (stops ++ more) (.error err) t'
  | operated (hleft : Tour left t stops (.ok v) t₁) (htest : op.Verdict v (.ok none))
      (hright : Tour right t₁ more (.ok w) t₂)
      (hcompute : Dialogue.run d.reader (op.evaluate b.computation v w) {} t₂ = some (r, {}, t'))
      : Tour (binary op left right (some b)) t
        (stops ++ more ++ [.turn (binary op left right (some b))]) r t'
  | uncompiled {type : TypeSignature}
      : Tour (call target receiver args type false) t [] (.error .notCompiled) t
  | receiverFailed {type : TypeSignature}
      (hreceiver : Sequence Tour receiver.toList t stops (.error err) t')
      : Tour (call target receiver args type true) t stops (.error err) t'
  | argumentFailed {type : TypeSignature}
      (hreceiver : Sequence Tour receiver.toList t stops (.ok this) t₁)
      (hargs : Sequence Tour args t₁ more (.error err) t')
      : Tour (call target receiver args type true) t (stops ++ more) (.error err) t'
  | called {type : TypeSignature} {reply : Reply}
      (hreceiver : Sequence Tour receiver.toList t stops (.ok this) t₁)
      (hargs : Sequence Tour args t₁ more (.ok values) t₂)
      (hreply : d.execute th ⟨target, this.head?, values⟩ t₂ = (reply, t'))
      : Tour (call target receiver args type true) t
        (stops ++ more ++
          [.call (call target receiver args type true) ⟨target, this.head?, values⟩])
        (reply.result target served) t'

end

/-- The stops are for these nodes in their order, all of them unless there was an error. -/
structure Covers (stops : List Stop) (r : Except EvalError α) (nodes : List Expr) : Prop where
  ordered : stops.flatMap Stop.nodes <+: nodes
  complete : ∀ a, r = .ok a → stops.flatMap Stop.nodes = nodes

variable {α β : Type} {stops more : List Stop} {nodes later : List Expr}

theorem Covers.of_eq {r : Except EvalError α} (heq : stops.flatMap Stop.nodes = nodes)
    : Covers stops r nodes where
  ordered := heq ▸ List.prefix_rfl
  complete _ _ := heq

theorem Covers.none (err : EvalError) (nodes : List Expr)
    : Covers [] (.error err : Except EvalError α) nodes where
  ordered := List.nil_prefix
  complete a ha := by contradiction

theorem Covers.error {err err' : EvalError}
    (hstops : Covers stops (.error err : Except EvalError α) nodes) (later : List Expr)
    : Covers stops (.error err' : Except EvalError β) (nodes ++ later) where
  ordered := hstops.ordered.trans (List.prefix_append nodes later)
  complete a ha := by contradiction

theorem Covers.stopped {a : α} {err : EvalError}
    (hstops : Covers stops (.ok a : Except EvalError α) nodes) (later : List Expr)
    : Covers stops (.error err : Except EvalError β) (nodes ++ later) where
  ordered := by
    rw [hstops.complete a rfl]
    apply List.prefix_append
  complete a ha := by contradiction

theorem Covers.append {a : α} {r : Except EvalError β}
    (hstops : Covers stops (.ok a : Except EvalError α) nodes) (hmore : Covers more r later)
    : Covers (stops ++ more) r (nodes ++ later) := by
  have hnodes := hstops.complete a rfl
  constructor
  · rw [List.flatMap_append, hnodes, List.prefix_append_right_inj]
    exact hmore.ordered
  · intro b hb
    rw [List.flatMap_append, hnodes, hmore.complete b hb]

variable {R : Expr → Trace → List Stop → Except EvalError Value → Trace → Prop} {t t' : Trace}

theorem Covers.map {r : Except EvalError α} (hstops : Covers stops r nodes) (f : α → β)
    : Covers stops (r.map f) nodes where
  ordered := hstops.ordered
  complete b hb := by
    cases r with
    | ok a => exact hstops.complete a rfl
    | error err => contradiction

theorem Sequence.covers {es : List Expr} {r : Except EvalError (List Value)}
    (hseq : Sequence R es t stops r t')
    (hes : ∀ e ∈ es, ∀ {stops t t' r}, R e t stops r t' → Covers stops r e.order)
    : Covers stops r (orderList es) := by
  induction hseq with
  | nil => exact .of_eq rfl
  | failed hfirst =>
    unfold orderList
    exact (hes _ (by simp) hfirst).error _
  | cons hfirst _ ih =>
    unfold orderList
    rw [List.forall_mem_cons] at hes
    exact (hes.1 hfirst).append ((ih hes.2).map _)

section

variable {d : Debuggee} {th : Thread} {source served : Source} {e : Expr}
  {r : Except EvalError Value}

theorem Tour.covers (htour : Tour d th source served e t stops r t') : Covers stops r e.order := by
  induction e using induction generalizing t stops r t' with
  | literal l =>
    cases htour
    exact .of_eq rfl
  | remote v type =>
    cases htour
    exact .of_eq rfl
  | failing type err =>
    cases htour
    exact .of_eq rfl
  | recorded id e ih =>
    cases htour with
    | recorded hinner =>
      have hturn : Covers [.turn (.recorded id e)] (.ok ()) [.recorded id e] := .of_eq rfl
      exact hturn.append (ih hinner)
  | binary op left right b ihl ihr =>
    unfold order
    -- The node itself has its turn last, and only if nothing in it has failed.
    have hturn : ∀ {b : Option Binding} {r : Except EvalError Value},
        Covers [.turn (.binary op left right b)] r [.binary op left right b] := .of_eq rfl
    cases htour with
    | unbound => apply Covers.none
    | firstFailed hleft =>
      rw [List.append_assoc]
      exact (ihl hleft).error _
    | undecided hleft htest =>
      rw [List.append_assoc]
      exact (ihl hleft).stopped _
    | settled hleft htest =>
      have hskip : Covers [.skip right] (.ok ()) right.order := .of_eq (by simp [Stop.nodes])
      exact ((ihl hleft).append hskip).append hturn
    | secondFailed hleft htest hright => exact ((ihl hleft).append (ihr hright)).error _
    | operated hleft htest hright hcompute =>
      exact ((ihl hleft).append (ihr hright)).append hturn
  | call target receiver args type compiled iho iha =>
    unfold order
    rw [orderOption_eq]
    cases htour with
    | uncompiled => apply Covers.none
    | receiverFailed hreceiver =>
      rw [List.append_assoc]
      exact (hreceiver.covers (by simpa using iho)).error _
    | argumentFailed hreceiver hargs =>
      exact ((hreceiver.covers (by simpa using iho)).append (hargs.covers iha)).error _
    | called hreceiver hargs hreply =>
      apply Covers.append ((hreceiver.covers (by simpa using iho)).append (hargs.covers iha))
      exact .of_eq rfl

end

theorem executed_of_reads {x : Dialogue α} {P : α → Prop} {d : Debuggee} {j j' : Journal} {a : α}
    (hx : x.Reads P) (hrun : x.run d.reader j t = some (a, j', t')) : t'.executed = t.executed := by
  induction hx generalizing t with
  | done _ =>
    obtain ⟨_, _, rfl⟩ := Dialogue.run_done_inv hrun
    rfl
  | @ask source address next _ ih =>
    obtain ⟨s, t₁, hread, hrun⟩ := Dialogue.run_ask_inv hrun
    have htrace : (d.read source address t).2 = t₁ := congrArg Prod.snd (Option.some.inj hread)
    rw [ih _ hrun, ← htrace, d.executed_read]

def RanSince (th : Thread) (t : Trace) (calls : List LiveCall) (t' : Trace) : Prop :=
  t'.executed = t.executed ++ calls.map (Execution.mk th)

theorem made_append (stops more : List Stop) : made (stops ++ more) = made stops ++ made more := by
  apply List.filterMap_append

variable {th : Thread} {t₁ : Trace} {calls moreCalls : List LiveCall}

theorem RanSince.none (th : Thread) (hsame : t'.executed = t.executed) : RanSince th t [] t' := by
  unfold RanSince
  rw [hsame, List.map_nil, List.append_nil]

theorem RanSince.append (hfirst : RanSince th t (made stops) t₁)
    (hmore : RanSince th t₁ (made more) t') : RanSince th t (made (stops ++ more)) t' := by
  unfold RanSince at *
  rw [hmore, hfirst, made_append, List.map_append, List.append_assoc]

theorem Sequence.ranSince {es : List Expr} {r : Except EvalError (List Value)}
    (hseq : Sequence R es t stops r t')
    (hes : ∀ e ∈ es, ∀ {stops t t' r}, R e t stops r t' → RanSince th t (made stops) t')
    : RanSince th t (made stops) t' := by
  induction hseq with
  | nil => exact .none th rfl
  | failed hfirst => exact hes _ (by simp) hfirst
  | cons hfirst _ ih =>
    rw [List.forall_mem_cons] at hes
    exact (hes.1 hfirst).append (ih hes.2)

variable {d : Debuggee} {source served : Source} {e : Expr} {r : Except EvalError Value}

theorem Tour.ranSince (htour : Tour d th source served e t stops r t')
    : RanSince th t (made stops) t' := by
  induction e using induction generalizing t stops r t' with
  | literal l | remote v type | failing type err =>
    cases htour
    exact .none th rfl
  | recorded id e ih =>
    cases htour with
    | recorded hinner =>
      have hturn : RanSince th t (made [.turn (.recorded id e)]) t := .none th rfl
      exact hturn.append (ih hinner)
  | binary op left right b ihl ihr =>
    cases htour with
    | unbound => exact .none th rfl
    | firstFailed hleft | undecided hleft htest => exact ihl hleft
    | settled hleft htest =>
      have hskip : RanSince th t' (made [.skip right]) t' := .none th rfl
      exact ((ihl hleft).append hskip).append (.none th rfl)
    | secondFailed hleft htest hright => exact (ihl hleft).append (ihr hright)
    | operated hleft htest hright hcompute =>
      apply ((ihl hleft).append (ihr hright)).append
      exact .none th (executed_of_reads (op.reads_evaluate _ _ _) hcompute)
  | call target receiver args type compiled iho iha =>
    cases htour with
    | uncompiled => exact .none th rfl
    | receiverFailed hreceiver => exact hreceiver.ranSince (by simpa using iho)
    | argumentFailed hreceiver hargs =>
      exact (hreceiver.ranSince (by simpa using iho)).append (hargs.ranSince iha)
    | called hreceiver hargs hreply =>
      apply ((hreceiver.ranSince (by simpa using iho)).append (hargs.ranSince iha)).append
      obtain rfl : (d.execute th _ _).2 = t' := congrArg Prod.snd hreply
      apply d.executed_execute

theorem recorders_append (nodes later : List Expr)
    : recorders (nodes ++ later) = recorders nodes ++ recorders later := by
  apply List.filterMap_append

theorem labels_append (stops more : List Stop)
    : labels (stops ++ more) = labels stops ++ labels more := by
  unfold labels
  rw [List.flatMap_append, recorders_append]

theorem count_labels (stops : List Stop) (id : String)
    : (labels stops).count id + (recorders (skipped stops)).count id =
        (recorders (stops.flatMap Stop.nodes)).count id := by
  unfold labels skipped
  induction stops with
  | nil => rfl
  | cons stop stops ih =>
    simp only [List.flatMap_cons, recorders_append, List.count_append]
    have hstop : (recorders stop.entered).count id + (recorders stop.passed).count id =
        (recorders stop.nodes).count id := by
      cases stop with
      | turn n | call n made => rfl
      | skip n => apply Nat.zero_add
    omega

end Expr

end Inspector
