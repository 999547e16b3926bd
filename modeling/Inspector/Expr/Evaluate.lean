import Inspector.Computation.Apply
import Inspector.Expr

/-!
Evaluation of compiled trees, from left to right and depth first. The first node that fails ends
the evaluation, and every node around it says on the way out which of its operands failed.
-/

namespace Inspector

inductive Position where
  | first | second
  | receiver (target : String)
  | argument (index : Nat) (target : String)
  deriving DecidableEq, Repr

def Position.failure : Position → String
  | first => "failed to evaluate the first operand"
  | second => "failed to evaluate the second operand"
  | receiver target => s!"failed to evaluate the receiver of '{target}'"
  | argument index target => s!"failed to evaluate argument {index} of '{target}'"

def Operator.shortCircuit (op : Operator) (left : Value) : Except EvalError (Option Bool) :=
  match op.decisive with
  | none => .ok none
  | some decisive => do
    if (← left.toBool) = decisive then return some decisive else return none

def Operator.evaluate (op : Operator) (c : Computation) (left right : Value) : Evaluation Value :=
  Dialogue.bind (c.apply op (.pair left right)) fun (r, _) => .done (r.map .primitive)

def LiveCall.evaluate (call : LiveCall) : Evaluation Value := do
  let handle ← Evaluation.reporting (← Evaluation.ask (.request call))
  match ← Evaluation.reporting (← Evaluation.ask (.wait handle)) with
  | .returned v => return v
  | .threw e => Evaluation.fail (.evalFault (.threw call.target e.type))

namespace Expr

mutual

def evaluate (source : Source) : Expr → Evaluation Value
  | literal l => return l.value
  | remote v _ => return v.wrap source
  | failing _ e => throw e
  | recorded id e => Dialogue.visit id (e.evaluate source)
  | binary _ _ _ none => throw .notCompiled
  | binary op left right (some b) => do
    let l ← (left.evaluate source).orReport Position.first.failure
    match ← Evaluation.ofExcept (op.shortCircuit l) with
    | some b => return .bool b
    | none =>
      let r ← (right.evaluate source).orReport Position.second.failure
      op.evaluate b.computation l r
  | call _ _ _ _ false => throw .notCompiled
  | call target receiver args _ true => do
    if ← Evaluation.ask .permitted then
      let receiver ← evaluateOption source target receiver
      let args ← evaluateList source target 0 args
      LiveCall.evaluate ⟨target, receiver, args⟩
    else
      Evaluation.fail (.notSupported (.callDisabled target))

def evaluateOption (source : Source) (target : String) : Option Expr → Evaluation (Option Value)
  | none => return none
  | some e => do
    return some (← (e.evaluate source).orReport (Position.receiver target).failure)

def evaluateList (source : Source) (target : String) (index : Nat) :
    List Expr → Evaluation (List Value)
  | [] => return []
  | e :: es => do
    let v ← (e.evaluate source).orReport (Position.argument index target).failure
    return v :: (← evaluateList source target (index + 1) es)

end

end Expr

end Inspector
