import Inspector.Computation
import Inspector.Value.Content

/-!
Applying a bound computation to two operands. The operands are read as the computation needs
them, the first before the second; then the operator has to be one that the computation knows.
Integers wrap, except that a quotient or remainder which does not exist is an error.
-/

namespace Inspector

namespace WordKind

abbrev Carrier (k : WordKind) : Type := BitVec k.toIntKind.width

def toInt (k : WordKind) (x : k.Carrier) : Int := k.toIntKind.toInt x

def quotientOverflows (k : WordKind) (x y : k.Carrier) : Bool :=
  k.signed && x == .intMin _ && y == .allOnes _

def div (k : WordKind) (x y : k.Carrier) : Except EvalError k.Carrier :=
  if y = 0 then
    .error (.invalidOperation .divisionByZero)
  else if k.quotientOverflows x y then
    .error (.invalidOperation (.overflow .div (k.toInt x) (k.toInt y)))
  else
    .ok (if k.signed then x.sdiv y else x.udiv y)

def rem (k : WordKind) (x y : k.Carrier) : Except EvalError k.Carrier :=
  if y = 0 then
    .error (.invalidOperation .divisionByZero)
  else if k.quotientOverflows x y then
    .error (.invalidOperation (.overflow .mod (k.toInt x) (k.toInt y)))
  else
    .ok (if k.signed then x.srem y else x.umod y)

def lt (k : WordKind) (x y : k.Carrier) : Bool :=
  if k.signed then x.slt y else x.ult y

def le (k : WordKind) (x y : k.Carrier) : Bool :=
  if k.signed then x.sle y else x.ule y

def shiftRight (k : WordKind) (x : k.Carrier) (count : Nat) : k.Carrier :=
  if k.signed then x.sshiftRight count else x.ushiftRight count

end WordKind

namespace NumKind

abbrev Carrier : NumKind → Type
  | word k => k.Carrier
  | float k => k.Carrier

def read : (k : NumKind) → Value → Except EvalError k.Carrier
  | word k, v => v.toInt k.toIntKind
  | float k, v => v.toFloat k

def wrap : (k : NumKind) → k.Carrier → Primitive
  | word k, x => .int k.toIntKind x
  | float k, x => .ofFloat k x

def add : (k : NumKind) → k.Carrier → k.Carrier → k.Carrier
  | word _, x, y => BitVec.add x y
  | float k, x, y => k.add x y

def sub : (k : NumKind) → k.Carrier → k.Carrier → k.Carrier
  | word _, x, y => BitVec.sub x y
  | float k, x, y => k.sub x y

def mul : (k : NumKind) → k.Carrier → k.Carrier → k.Carrier
  | word _, x, y => BitVec.mul x y
  | float k, x, y => k.mul x y

def div : (k : NumKind) → k.Carrier → k.Carrier → Except EvalError k.Carrier
  | word k, x, y => k.div x y
  | float k, x, y => .ok (k.div x y)

def rem : (k : NumKind) → k.Carrier → k.Carrier → Except EvalError k.Carrier
  | word k, x, y => k.rem x y
  | float k, x, y => .ok (k.rem x y)

def beq : (k : NumKind) → k.Carrier → k.Carrier → Bool
  | word _, x, y => decide (x = y)
  | float k, x, y => k.beq x y

def lt : (k : NumKind) → k.Carrier → k.Carrier → Bool
  | word k, x, y => k.lt x y
  | float k, x, y => k.lt x y

def le : (k : NumKind) → k.Carrier → k.Carrier → Bool
  | word k, x, y => k.le x y
  | float k, x, y => k.le x y

end NumKind

namespace Operator

variable (op : Operator)

def inapplicable (usage : Usage) : Except EvalError α :=
  .error (.invalidOperation (.inapplicable op usage))

def arithmetic (k : NumKind) (x y : k.Carrier) : Except EvalError k.Carrier :=
  match op with
  | add => .ok (k.add x y)
  | sub => .ok (k.sub x y)
  | mul => .ok (k.mul x y)
  | div => k.div x y
  | mod => k.rem x y
  | _ => op.inapplicable .arithmetic

def compare (k : NumKind) (x y : k.Carrier) : Except EvalError Bool :=
  match op with
  | eq => .ok (k.beq x y)
  | ne => .ok (!k.beq x y)
  | le => .ok (k.le x y)
  | ge => .ok (k.le y x)
  | lt => .ok (k.lt x y)
  | gt => .ok (k.lt y x)
  | _ => op.inapplicable .comparison

def bitwise (k : WordKind) (x y : k.Carrier) : Except EvalError k.Carrier :=
  match op with
  | bitAnd => .ok (x &&& y)
  | bitOr => .ok (x ||| y)
  | bitXor => .ok (x ^^^ y)
  | _ => op.inapplicable .bitwise

def shift (k : WordKind) (x : k.Carrier) (count : Nat) : Except EvalError k.Carrier :=
  match op with
  | shl => .ok (x <<< count)
  | shr | shrUnsigned => .ok (k.shiftRight x count)
  | _ => op.inapplicable .shift

def boolean (x y : Bool) : Except EvalError Bool :=
  match op with
  | conditionalAnd | bitAnd => .ok (x && y)
  | conditionalOr | bitOr => .ok (x || y)
  | eq => .ok (x == y)
  | ne | bitXor => .ok (x != y)
  | _ => op.inapplicable .boolean

def equality (equal : Bool) : Except EvalError Bool :=
  match op with
  | eq => .ok equal
  | ne => .ok !equal
  | _ => op.inapplicable .equality

variable (left right : Value)

def onNumbers (k : NumKind) : Except EvalError Primitive := do
  let x ← k.read left
  let y ← k.read right
  return k.wrap (← op.arithmetic k x y)

def onCompared (k : NumKind) : Except EvalError Primitive := do
  let x ← k.read left
  let y ← k.read right
  return .bool (← op.compare k x y)

def onBits (k : WordKind) : Except EvalError Primitive := do
  let x ← left.toInt k.toIntKind
  let y ← right.toInt k.toIntKind
  return .int k.toIntKind (← op.bitwise k x y)

def onShifted (k : WordKind) (mask : Nat) : Except EvalError Primitive := do
  let count ← right.toInt .i32
  let x ← left.toInt k.toIntKind
  return .int k.toIntKind (← op.shift k x (count.toNat &&& mask))

def onBooleans : Except EvalError Primitive := do
  let x ← left.toBool
  let y ← right.toBool
  return .bool (← op.boolean x y)

def onIdentities : Except EvalError Primitive := do
  return .bool (← op.equality (left.isIdentical right))

end Operator

inductive Operands where
  | pair (left right : Value)
  | same (value : Value)
  deriving DecidableEq

namespace Operands

def left : Operands → Value
  | pair l _ => l
  | same v => v

def right : Operands → Value
  | pair _ r => r
  | same v => v

def setLeft (v : Value) : Operands → Operands
  | pair _ r => pair v r
  | same _ => same v

def setRight (v : Value) : Operands → Operands
  | pair l _ => pair l v
  | same _ => same v

def contentsEqual (o : Operands) : Dialogue (Except EvalError Bool × Operands) :=
  o.left.operandContent.bind fun (l, v) =>
    let o := o.setLeft v
    match l with
    | .error e => .done (.error e, o)
    | .ok l =>
      o.right.operandContent.bind fun (r, v) =>
        let o := o.setRight v
        match r with
        | .error e => .done (.error e, o)
        | .ok r => .done (.ok (l == r), o)

end Operands

namespace Operator

def onContents (op : Operator) (o : Operands) : Dialogue (Except EvalError Primitive × Operands) :=
  o.contentsEqual.bind fun (r, o) =>
    .done (do return .bool (← op.equality (← r)), o)

end Operator

def Computation.apply (c : Computation) (op : Operator) (o : Operands) :
    Dialogue (Except EvalError Primitive × Operands) :=
  match c with
  | arithmetic k => .done (op.onNumbers o.left o.right k, o)
  | comparison k => .done (op.onCompared o.left o.right k, o)
  | bitwise k => .done (op.onBits o.left o.right k, o)
  | shift k mask => .done (op.onShifted o.left o.right k mask, o)
  | boolean => .done (op.onBooleans o.left o.right, o)
  | stringEquality => op.onContents o
  | referenceEquality => .done (op.onIdentities o.left o.right, o)

end Inspector
