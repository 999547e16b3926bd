import Inspector.Value

/-!
Live calls: methods and property getters that run in the debuggee, and what comes of them.
-/

namespace Inspector

structure LiveCall where
  target : String
  receiver : Option Value := none
  args : List Value := []
  deriving DecidableEq

inductive Outcome where
  | returned (value : Value)
  | threw (exception : Value)
  deriving DecidableEq

inductive Delivery where
  | outcome (outcome : Outcome)
  | fault (fault : Fault)
  deriving DecidableEq

namespace Delivery

def result : Delivery → Except EvalError Outcome
  | outcome o => .ok o
  | fault f => .error (.evalFault f)

end Delivery

end Inspector
