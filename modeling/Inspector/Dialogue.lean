import Inspector.Debuggee
import Inspector.Sink

/-!
Dialogues: computations that talk to a host. A dialogue is finished, or leaves a note in the
journal of its evaluation, or asks the host a question and goes on with the answer. A host answers
from a state of its own, and may also keep silent for ever.

`Dialogue.run_bind` says that a dialogue can be run piece by piece.
-/

namespace Inspector

inductive Question where
  | permitted
  | request (call : LiveCall)
  | wait (handle : Handle)
  | readString (source : Source) (address : Address)

abbrev Question.Answer : Question → Type
  | permitted => Bool
  | request _ => Except EvalError Handle
  | wait _ => Except EvalError Outcome
  | readString .. => Except Unavailable String

inductive Dialogue (α : Type) where
  | done (a : α)
  | report (message : String) (next : Dialogue α)
  | visit (id : String) (next : Dialogue α)
  | ask (q : Question) (next : q.Answer → Dialogue α)

structure Journal where
  sink : Sink := {}
  visits : List String := []
  deriving DecidableEq

namespace Journal

def report (j : Journal) (message : String) : Journal :=
  { j with sink := j.sink.report message }

def visit (j : Journal) (id : String) : Journal :=
  { j with visits := j.visits ++ [id] }

def count (j : Journal) (id : String) : Nat := j.visits.count id

end Journal

/-- A host answers a question and moves on, or never answers. -/
abbrev Host (σ : Type) := (q : Question) → σ → Option (q.Answer × σ)

namespace Dialogue

variable {α β γ σ : Type}

def bind : Dialogue α → (α → Dialogue β) → Dialogue β
  | done a, f => f a
  | report m next, f => report m (next.bind f)
  | visit id next, f => visit id (next.bind f)
  | ask q next, f => ask q fun a => (next a).bind f

instance : Monad Dialogue where
  pure := done
  bind := bind

def run (host : Host σ) : Dialogue α → Journal → σ → Option (α × Journal × σ)
  | done a, j, s => some (a, j, s)
  | report m next, j, s => next.run host (j.report m) s
  | visit id next, j, s => next.run host (j.visit id) s
  | ask q next, j, s =>
    match host q s with
    | some (a, s) => (next a).run host j s
    | none => none

@[simp]
theorem bind_eq (x : Dialogue α) (f : α → Dialogue β) : x >>= f = x.bind f := rfl

@[simp]
theorem pure_eq (a : α) : (pure a : Dialogue α) = done a := rfl

@[simp]
theorem bind_done (x : Dialogue α) : x.bind done = x := by
  induction x with
  | done a => rfl
  | report m next ih => simp [bind, ih]
  | visit id next ih => simp [bind, ih]
  | ask q next ih => simp [bind, ih]

theorem run_bind (host : Host σ) (x : Dialogue α) (f : α → Dialogue β) (j : Journal) (s : σ) :
    (x.bind f).run host j s =
      (x.run host j s).bind fun r => (f r.1).run host r.2.1 r.2.2 := by
  induction x generalizing j s with
  | done a => rfl
  | report m next ih => simp [bind, run, ih]
  | visit id next ih => simp [bind, run, ih]
  | ask q next ih =>
    simp only [bind, run]
    cases host q s with
    | none => rfl
    | some r => exact ih r.1 j r.2

end Dialogue

abbrev Evaluation (α : Type) := ExceptT EvalError Dialogue α

namespace Evaluation

variable {α : Type}

def ofExcept (r : Except EvalError α) : Evaluation α := Dialogue.done r

def ask (q : Question) : Evaluation q.Answer := Dialogue.ask q fun a => .done (.ok a)

def fail (e : EvalError) : Evaluation α := Dialogue.report e.message (.done (.error e))

def reporting (r : Except EvalError α) : Evaluation α :=
  match r with
  | .ok a => Dialogue.done (.ok a)
  | .error e => fail e

def orReport (x : Evaluation α) (message : String) : Evaluation α :=
  Dialogue.bind x fun
    | .ok a => .done (.ok a)
    | .error e => .report message (.done (.error e))

end Evaluation

end Inspector
