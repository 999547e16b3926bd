import Inspector.Error

/-!
Promotion: the kind to which operators convert their operands before they apply.
-/

namespace Inspector

inductive WordKind where
  | i32 | u32 | i64 | u64
  deriving DecidableEq, Repr

namespace WordKind

def toIntKind : WordKind → IntKind
  | i32 => .i32
  | u32 => .u32
  | i64 => .i64
  | u64 => .u64

def width (k : WordKind) : Nat := k.toIntKind.width

def signed (k : WordKind) : Bool := k.toIntKind.signed

def kind (k : WordKind) : Kind := .int k.toIntKind

def shiftMask (k : WordKind) : Nat := k.width - 1

theorem width_eq (k : WordKind) : k.width = 32 ∨ k.width = 64 := by
  cases k <;> decide

end WordKind

inductive NumKind where
  | word (k : WordKind)
  | float (k : FloatKind)
  deriving DecidableEq, Repr

namespace NumKind

def kind : NumKind → Kind
  | word k => k.kind
  | float k => .float k

def toWord? : NumKind → Option WordKind
  | word k => some k
  | float _ => none

end NumKind

def IntKind.promote (left right : IntKind) : WordKind :=
  if left = u64 ∨ right = u64 then .u64
  else if left = i64 ∨ right = i64 then .i64
  else if left = u32 ∨ right = u32 then
    if left.signed || right.signed then .i64 else .u32
  else .i32

def IntKind.widen : IntKind → WordKind
  | i32 => .i32
  | u32 => .u32
  | i64 => .i64
  | u64 => .u64
  | char | i8 | u8 | i16 | u16 => .i32

def FloatKind.promote : FloatKind → FloatKind → FloatKind
  | single, single => single
  | _, _ => double

def Kind.promote : Kind → Kind → Except EvalError NumKind
  | int l, int r => .ok (.word (l.promote r))
  | float l, float r => .ok (.float (l.promote r))
  | float l, int _ => .ok (.float l)
  | int _, float r => .ok (.float r)
  | l, r => .error (.typeMismatch (.promotion l r))

def Kind.shiftKind : Kind → Option WordKind
  | int k => some k.widen
  | _ => none

end Inspector
