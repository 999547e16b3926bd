import Inspector.Computation.Apply

/-!
Values held under names. Reading the content of a held string makes the holder remember it; a
copy starts with what is remembered and goes its own way from there.
-/

namespace Inspector

structure Held where
  entries : List (String × Value) := []
  deriving DecidableEq

namespace Held

def empty : Held := {}

def find? (h : Held) (name : String) : Option Value := h.entries.lookup name

def insert (h : Held) (name : String) (v : Value) : Held :=
  ⟨(name, v) :: h.entries⟩

def copy (h : Held) (source target : String) : Held :=
  match h.find? source with
  | some v => h.insert target v
  | none => h

def content (h : Held) (name : String) : Dialogue (Option (Except EvalError String) × Held) :=
  match h.find? name with
  | some v => v.content.bind fun (r, v) => .done (some r, h.insert name v)
  | none => .done (none, h)

def operands? (h : Held) (left right : String) : Option Operands :=
  if left = right then
    (h.find? left).map .same
  else
    match h.find? left, h.find? right with
    | some l, some r => some (.pair l r)
    | _, _ => none

def restore (h : Held) (left right : String) (o : Operands) : Held :=
  (h.insert left o.left).insert right o.right

def apply (h : Held) (c : Computation) (op : Operator) (left right : String) :
    Dialogue (Option (Except EvalError Primitive) × Held) :=
  match h.operands? left right with
  | some o => (c.apply op o).bind fun (r, o) => .done (some r, h.restore left right o)
  | none => .done (none, h)

def isIdentical (h : Held) (left right : String) : Option Bool :=
  match h.find? left, h.find? right with
  | some l, some r => some (l.isIdentical r)
  | _, _ => none

@[simp]
theorem find?_insert (h : Held) (name : String) (v : Value) :
    (h.insert name v).find? name = some v := by
  simp [insert, find?]

theorem find?_insert_of_ne (h : Held) {name other : String} (v : Value) (hne : other ≠ name) :
    (h.insert name v).find? other = h.find? other := by
  simp [insert, find?, List.lookup_cons, beq_eq_false_iff_ne.mpr hne]

end Held

end Inspector
