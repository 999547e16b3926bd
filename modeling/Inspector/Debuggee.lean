import Inspector.LiveCall

/-!
Debuggees. Whatever a debuggee answers may depend on the calls that it has run before, so a
debuggee is a pair of functions of that history, and a `Debuggee.Trace` is one history of its use.

Among the errors of evaluations there is one for remote values that cannot be read, and a read fails
with no other: what memory may say is why the value is unavailable. The memories of the program,
tables of strings and the detached source, keep to that.
-/

namespace Inspector

structure Execution where
  thread : Thread
  call : LiveCall
  deriving DecidableEq

inductive Reply where
  | returned (value : RemoteValue)
  | threw (exception : RemoteValue)
  | failed (reason : String)
  deriving DecidableEq

def Reply.delivery (source : Source) : Reply → Delivery
  | returned v => .outcome (.returned (v.wrap source))
  | threw e => .outcome (.threw (e.wrap source))
  | failed reason => .fault (.stated reason)

/-- Histories are oldest first; the last execution given to `run` is the call to be answered. -/
structure Debuggee where
  readString : List Execution → Address → Except Unavailable String
  run : List Execution → Execution → Reply

namespace Debuggee

def ofTables (strings : List (Address × String)) (calls : List (String × Reply)) : Debuggee where
  readString _ a :=
    match strings.lookup a with
    | some content => .ok content
    | none => .error (.noString a)
  run _ e :=
    match calls.lookup e.call.target with
    | some reply => reply
    | none => .failed s!"no such method '{e.call.target}'"

structure Trace where
  executed : List Execution := []
  stringReads : Nat := 0
  deriving DecidableEq

def execute (d : Debuggee) (thread : Thread) (call : LiveCall) (t : Trace) : Reply × Trace :=
  let e : Execution := ⟨thread, call⟩
  (d.run t.executed e, { t with executed := t.executed ++ [e] })

def read (d : Debuggee) (source : Source) (a : Address) (t : Trace) :
    Except Unavailable String × Trace :=
  match source with
  | .attached => (d.readString t.executed a, { t with stringReads := t.stringReads + 1 })
  | .detached => (.error (.detached a), t)

@[simp]
theorem executed_read (d : Debuggee) (source : Source) (a : Address) (t : Trace)
    : (d.read source a t).2.executed = t.executed := by
  cases source <;> rfl

@[simp]
theorem executed_execute (d : Debuggee) (thread : Thread) (call : LiveCall) (t : Trace)
    : (d.execute thread call t).2.executed = t.executed ++ [⟨thread, call⟩] := rfl

end Debuggee

end Inspector
