import Inspector.Computation
import Inspector.Sink
import Inspector.Value

/-!
Expression trees and their compilation. Compiling resolves the types of a tree from the leaves
to the root and binds its operators; what was resolved is kept in the tree. The first node that
cannot be resolved ends it, with one message, and the nodes behind it stay as they were.
-/

namespace Inspector

inductive Literal where
  | primitive (p : Primitive)
  | text (content : String)
  | null (type : TypeSignature)
  deriving DecidableEq

namespace Literal

def type : Literal → TypeSignature
  | primitive p => .of p.kind
  | text _ => .of .string
  | null type => type

def value : Literal → Value
  | primitive p => .primitive p
  | text content => .text content
  | null type => .null type

end Literal

inductive Expr where
  | literal (l : Literal)
  /-- A leaf that stands for a value of the debuggee and claims a type for it. -/
  | remote (value : RemoteValue) (type : TypeSignature)
  | failing (type : TypeSignature) (error : EvalError)
  | recorded (id : String) (inner : Expr)
  /-- `bound` is there if the last compilation got to the end of this node. -/
  | binary (op : Operator) (left right : Expr) (bound : Option Binding)
  /-- `type` is the type that was last resolved; it outlives a compilation that fails. -/
  | call (target : String) (receiver : Option Expr) (args : List Expr)
      (type : TypeSignature) (compiled : Bool)

abbrev Context := String → Option TypeSignature

namespace Expr

def apply (op : Operator) (left right : Expr) : Expr :=
  .binary op left right none

def invoke (target : String) (receiver : Option Expr := none) (args : List Expr := []) : Expr :=
  .call target receiver args .object false

def type : Expr → TypeSignature
  | literal l => l.type
  | remote _ type | failing type _ => type
  | recorded _ e => e.type
  | binary _ _ _ (some b) => b.type
  | binary _ _ _ none => .object
  | call _ _ _ type _ => type

structure Compiled (α : Type) where
  tree : α
  sink : Sink
  result : Except EvalError Unit

mutual

def compile (ctx : Context) (sink : Sink) : Expr → Compiled Expr
  | literal l => ⟨literal l, sink, .ok ()⟩
  | remote v type => ⟨remote v type, sink, .ok ()⟩
  | failing type e => ⟨failing type e, sink, .ok ()⟩
  | recorded id e =>
    let c := e.compile ctx sink
    { c with tree := recorded id c.tree }
  | binary op left right _ =>
    let l := left.compile ctx sink
    match l.result with
    | .error e => ⟨binary op l.tree right none, l.sink, .error e⟩
    | .ok () =>
      let r := right.compile ctx l.sink
      match r.result with
      | .error e => ⟨binary op l.tree r.tree none, r.sink, .error e⟩
      | .ok () =>
        match op.bind l.tree.type r.tree.type with
        | .error e => ⟨binary op l.tree r.tree none, r.sink.fail e, .error e⟩
        | .ok b => ⟨binary op l.tree r.tree (some b), r.sink, .ok ()⟩
  | call target receiver args type _ =>
    let o := compileOption ctx sink receiver
    match o.result with
    | .error e => ⟨call target o.tree args type false, o.sink, .error e⟩
    | .ok () =>
      let a := compileList ctx o.sink args
      match a.result with
      | .error e => ⟨call target o.tree a.tree type false, a.sink, .error e⟩
      | .ok () =>
        match ctx target with
        | none =>
          let e := .notSupported (.unresolvedCall target)
          ⟨call target o.tree a.tree type false, a.sink.fail e, .error e⟩
        | some type => ⟨call target o.tree a.tree type true, a.sink, .ok ()⟩

def compileOption (ctx : Context) (sink : Sink) : Option Expr → Compiled (Option Expr)
  | none => ⟨none, sink, .ok ()⟩
  | some e =>
    let c := e.compile ctx sink
    { c with tree := some c.tree }

def compileList (ctx : Context) (sink : Sink) : List Expr → Compiled (List Expr)
  | [] => ⟨[], sink, .ok ()⟩
  | e :: es =>
    let c := e.compile ctx sink
    match c.result with
    | .error err => ⟨c.tree :: es, c.sink, .error err⟩
    | .ok () =>
      let cs := compileList ctx c.sink es
      { cs with tree := c.tree :: cs.tree }

end

end Expr

end Inspector
