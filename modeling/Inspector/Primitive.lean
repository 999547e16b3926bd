import Inspector.Float.Conversion
import Inspector.Kind.Promotion

/-!
Scalars copied out of the debuggee, and how a scalar of one kind is read as another.
Reading an integer as an integer keeps the low bits, with the sign extended where there is one;
reading a floating-point number as an integer drops the fraction and saturates.
-/

namespace Inspector

namespace IntKind

def toInt (k : IntKind) (bits : BitVec k.width) : Int :=
  if k.signed then bits.toInt else bits.toNat

def minValue (k : IntKind) : Int :=
  if k.signed then (BitVec.intMin k.width).toInt else 0

def maxValue (k : IntKind) : Int :=
  if k.signed then (BitVec.intMax k.width).toInt else (BitVec.allOnes k.width).toNat

def ofInt (k : IntKind) (v : Int) : BitVec k.width := .ofInt k.width v

def convert (k j : IntKind) (bits : BitVec k.width) : BitVec j.width :=
  if k.signed then bits.signExtend j.width else bits.setWidth j.width

end IntKind

inductive Primitive where
  | bool (b : Bool)
  | int (k : IntKind) (bits : BitVec k.width)
  | single (x : Float32)
  | double (x : Float)
  deriving DecidableEq

namespace Primitive

def kind : Primitive → Kind
  | bool _ => .boolean
  | int k _ => .int k
  | single _ => .float .single
  | double _ => .float .double

def ofFloat : (k : FloatKind) → k.Carrier → Primitive
  | .single, x => single x
  | .double, x => double x

def toBool? : Primitive → Option Bool
  | bool b => some b
  | _ => none

def toInt? (j : IntKind) : Primitive → Option (BitVec j.width)
  | bool _ => none
  | int k bits => some (k.convert j bits)
  | single x => some (j.ofInt (FloatKind.single.truncate j.minValue j.maxValue x))
  | double x => some (j.ofInt (FloatKind.double.truncate j.minValue j.maxValue x))

def toFloat? (j : FloatKind) : Primitive → Option j.Carrier
  | bool _ => none
  | int k bits => some (j.ofInt (k.toInt bits))
  | single x => some (FloatKind.single.convert j x)
  | double x => some (FloatKind.double.convert j x)

@[simp]
theorem kind_ofFloat (k : FloatKind) (x : k.Carrier) : (ofFloat k x).kind = .float k := by
  cases k <;> rfl

theorem isSome_toInt? (j : IntKind) (p : Primitive) :
    (p.toInt? j).isSome = p.kind.isNumeric := by
  cases p <;> rfl

theorem isSome_toFloat? (j : FloatKind) (p : Primitive) :
    (p.toFloat? j).isSome = p.kind.isNumeric := by
  cases p <;> rfl

theorem isSome_toBool? (p : Primitive) : p.toBool?.isSome = (p.kind == .boolean) := by
  cases p <;> rfl

end Primitive

end Inspector
