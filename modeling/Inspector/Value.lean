import Inspector.Primitive

/-!
Values: copies that the debugger owns, and names of things that live in the debuggee.
A remote string is a name until its content is first needed, and keeps the content from then on.
-/

namespace Inspector

/-- Where remote strings are read: in a debuggee, or nowhere once it is gone. -/
inductive Source where
  | attached | detached
  deriving DecidableEq, Repr

inductive StringValue where
  | synthetic (content : String)
  | remote (source : Source) (address : Address) (content : Option String)
  deriving DecidableEq, Repr

namespace StringValue

def address? : StringValue → Option Address
  | synthetic _ => none
  | remote _ a _ => some a

def content? : StringValue → Option String
  | synthetic c => some c
  | remote _ _ c => c

def isMaterialized (s : StringValue) : Bool := s.content?.isSome

def materialize (content : String) : StringValue → StringValue
  | synthetic c => synthetic c
  | remote source a none => remote source a (some content)
  | remote source a (some c) => remote source a (some c)

end StringValue

inductive Value where
  | primitive (p : Primitive)
  | string (s : StringValue)
  | reference (address : Address) (type : TypeSignature)
  | composite (address : Address) (type : TypeSignature)
  deriving DecidableEq

inductive RemoteValue where
  | primitive (p : Primitive)
  | string (address : Address)
  | object (address : Address) (type : TypeSignature)
  | composite (address : Address) (type : TypeSignature)
  | null (type : TypeSignature)
  deriving DecidableEq

def RemoteValue.wrap (source : Source) : RemoteValue → Value
  | primitive p => .primitive p
  | string a => .string (.remote source a none)
  | object a type => .reference a type
  | composite a type => .composite a type
  | null type => .reference .null type

namespace Value

def bool (b : Bool) : Value := primitive (.bool b)

def text (content : String) : Value := string (.synthetic content)

def null (type : TypeSignature) : Value := reference .null type

def type : Value → TypeSignature
  | primitive p => .of p.kind
  | string _ => .of .string
  | reference _ type | composite _ type => type

def kind (v : Value) : Kind := v.type.kind

def identity : Value → Option Address
  | primitive _ => none
  | string s => s.address?
  | reference a _ | composite a _ => some a

/-- Both values denote the same object; so a value without identity is not even itself. -/
def isIdentical (v w : Value) : Bool :=
  match v.identity, w.identity with
  | some a, some b => a == b
  | _, _ => false

def isNullReference : Value → Bool
  | reference a _ => a.isNull
  | _ => false

def readScalar (wanted : Kind) (read : Primitive → Option α) (v : Value) : Except EvalError α :=
  match v with
  | primitive p =>
    match read p with
    | some x => .ok x
    | none => .error (.typeMismatch (.scalar v.type wanted))
  | _ => .error (.typeMismatch (.scalar v.type wanted))

def toBool (v : Value) : Except EvalError Bool :=
  v.readScalar .boolean Primitive.toBool?

def toInt (k : IntKind) (v : Value) : Except EvalError (BitVec k.width) :=
  v.readScalar (.int k) (Primitive.toInt? k)

def toFloat (k : FloatKind) (v : Value) : Except EvalError k.Carrier :=
  v.readScalar (.float k) (Primitive.toFloat? k)

@[simp]
theorem toBool_bool (b : Bool) : (bool b).toBool = .ok b := rfl

@[simp]
theorem kind_primitive (p : Primitive) : (primitive p).kind = p.kind := rfl

theorem isIdentical_comm (v w : Value) : v.isIdentical w = w.isIdentical v := by
  unfold isIdentical
  split <;> split <;> simp_all [Bool.beq_comm]

end Value

end Inspector
