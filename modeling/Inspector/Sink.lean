import Inspector.Error

/-!
Sinks: the messages of a compilation or an evaluation, for the reader of the expression.
-/

namespace Inspector

structure Sink where
  messages : List String := []
  deriving DecidableEq, Repr

namespace Sink

def empty : Sink := {}

def report (s : Sink) (message : String) : Sink := ⟨s.messages ++ [message]⟩

def fail (s : Sink) (e : EvalError) : Sink := s.report e.message

def isEmpty (s : Sink) : Bool := s.messages.isEmpty

def text (s : Sink) : String := "; ".intercalate s.messages

@[simp]
theorem messages_fail (s : Sink) (e : EvalError) :
    (s.fail e).messages = s.messages ++ [e.message] := rfl

@[simp]
theorem messages_empty : empty.messages = [] := rfl

end Sink

end Inspector
