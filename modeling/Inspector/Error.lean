import Inspector.Kind
import Inspector.Naming
import Inspector.Operator

/-!
Errors of compilation and evaluation. An error is its cause; the wording is kept in one place,
`EvalError.message`. The `stated` causes carry a text that came from outside.
-/

namespace Inspector

inductive Usage where
  | arithmetic | comparison | bitwise | shift | boolean | equality
  deriving DecidableEq, Repr

def Usage.text : Usage → String
  | arithmetic => "arithmetic"
  | comparison => "a comparison"
  | bitwise => "a bitwise operation"
  | shift => "a shift"
  | boolean => "a boolean operation"
  | equality => "an equality test"

inductive Mismatch where
  | promotion (left right : Kind)
  | operands (op : Operator) (left right : TypeSignature)
  | scalar (found : TypeSignature) (wanted : Kind)
  | notString (found : TypeSignature)
  | stated (text : String)
  deriving DecidableEq, Repr

def Mismatch.text : Mismatch → String
  | promotion l r => s!"cannot apply numeric promotion to {l.runtimeName} and {r.runtimeName}"
  | operands op l r =>
    s!"operator '{op.symbol}' cannot be applied to operands of type '{l.name}' and '{r.name}'"
  | scalar found wanted => s!"cannot read {found.name} as {wanted.runtimeName}"
  | notString found => s!"expected System.String, got {found.name}"
  | stated text => text

inductive Unsupported where
  | operands (op : Operator) (left right : TypeSignature)
  | unresolvedCall (target : String)
  | callDisabled (target : String)
  | disabled
  | stated (text : String)
  deriving DecidableEq, Repr

def Unsupported.text : Unsupported → String
  | operands op l r => s!"operator '{op.symbol}' on operands of type '{l.name}' and '{r.name}'"
  | unresolvedCall target => s!"cannot resolve the return type of '{target}'"
  | callDisabled target => s!"cannot call '{target}' while property evaluation is disabled"
  | disabled => "property evaluation is disabled"
  | stated text => text

inductive Invalid where
  | divisionByZero
  | overflow (op : Operator) (left right : Int)
  | inapplicable (op : Operator) (usage : Usage)
  | notOutstanding (handle : Handle)
  | noOutcome
  | stated (text : String)
  deriving DecidableEq, Repr

def Invalid.text : Invalid → String
  | divisionByZero => "division by zero"
  | overflow op l r => s!"{l} {op.symbol} {r} overflows"
  | inapplicable op usage => s!"operator '{op.symbol}' cannot be applied as {usage.text}"
  | notOutstanding h => s!"{h.text} is not outstanding"
  | noOutcome => "no evaluation outcome to consume"
  | stated text => text

inductive Fault where
  | sessionClosed
  | timedOut (handle : Handle)
  | threw (target : String) (exception : TypeSignature)
  | noActiveThread
  | stated (text : String)
  deriving DecidableEq, Repr

def Fault.text : Fault → String
  | sessionClosed => "evaluation session closed"
  | timedOut h => s!"{h.text} timed out"
  | threw target exception => s!"'{target}' threw {exception.name}"
  | noActiveThread => "no active debuggee thread"
  | stated text => text

/-- Why a remote value cannot be read. -/
inductive Unavailable where
  | detached (address : Address)
  | noString (address : Address)
  | stated (text : String)
  deriving DecidableEq, Repr

def Unavailable.text : Unavailable → String
  | detached a => s!"cannot read string at {a.text}: debuggee is not attached"
  | noString a => s!"no string object at {a.text}"
  | stated text => text

inductive EvalError where
  | typeMismatch (cause : Mismatch)
  | notSupported (cause : Unsupported)
  | invalidOperation (cause : Invalid)
  | evalFault (cause : Fault)
  | valueUnavailable (cause : Unavailable)
  | evalInProgress
  | notCompiled
  deriving DecidableEq, Repr

namespace EvalError

def message : EvalError → String
  | typeMismatch c => s!"type mismatch: {c.text}"
  | notSupported c => s!"not supported: {c.text}"
  | invalidOperation c => s!"invalid operation: {c.text}"
  | evalFault c => s!"evaluation fault: {c.text}"
  | valueUnavailable c => s!"value unavailable: {c.text}"
  | evalInProgress => "a live evaluation is already in progress"
  | notCompiled => "expression has not been compiled"

def isCompileError : EvalError → Bool
  | typeMismatch _ | notSupported _ => true
  | _ => false

def isEvalFault : EvalError → Bool
  | evalFault _ | evalInProgress => true
  | _ => false

end EvalError

end Inspector
