/-!
Names of what the debugger does not hold itself: objects are named by addresses, threads and live
evaluations by numbers.
-/

namespace Inspector

structure Address where
  bits : UInt64
  deriving DecidableEq, Repr

namespace Address

def null : Address := ⟨0⟩

def isNull (a : Address) : Bool := a == null

def text (a : Address) : String :=
  "0x" ++ String.ofList (Nat.toDigits 16 a.bits.toNat)

end Address

structure Handle where
  id : Nat
  deriving DecidableEq, Repr

def Handle.text (h : Handle) : String := "eval#" ++ toString h.id

structure Thread where
  id : Nat
  deriving DecidableEq, Repr

def Thread.text (t : Thread) : String := "thread " ++ toString t.id

end Inspector
