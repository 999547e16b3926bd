/-!
The kinds of value that a debuggee holds, and types, which are a kind together with a name.
-/

namespace Inspector

inductive IntKind where
  | char | i8 | u8 | i16 | u16 | i32 | u32 | i64 | u64
  deriving DecidableEq, Repr

namespace IntKind

def width : IntKind → Nat
  | i8 | u8 => 8
  | char | i16 | u16 => 16
  | i32 | u32 => 32
  | i64 | u64 => 64

def signed : IntKind → Bool
  | i8 | i16 | i32 | i64 => true
  | char | u8 | u16 | u32 | u64 => false

def small : IntKind → Bool
  | char | i8 | u8 | i16 | u16 => true
  | i32 | u32 | i64 | u64 => false

theorem width_pos (k : IntKind) : 0 < k.width := by
  cases k <;> decide

end IntKind

inductive FloatKind where
  | single | double
  deriving DecidableEq, Repr

inductive Kind where
  | boolean
  | int (k : IntKind)
  | float (k : FloatKind)
  | string
  | classType
  /-- Any object; also the kind of an expression whose type is not known. -/
  | object
  deriving DecidableEq, Repr

namespace Kind

def runtimeName : Kind → String
  | boolean => "System.Boolean"
  | int .char => "System.Char"
  | int .i8 => "System.SByte"
  | int .u8 => "System.Byte"
  | int .i16 => "System.Int16"
  | int .u16 => "System.UInt16"
  | int .i32 => "System.Int32"
  | int .u32 => "System.UInt32"
  | int .i64 => "System.Int64"
  | int .u64 => "System.UInt64"
  | float .single => "System.Single"
  | float .double => "System.Double"
  | string => "System.String"
  | classType | object => "System.Object"

def isIntegral : Kind → Bool
  | int _ => true
  | _ => false

def isNumeric : Kind → Bool
  | int _ | float _ => true
  | _ => false

def isUnsigned : Kind → Bool
  | int k => !k.signed
  | _ => false

def isSmall : Kind → Bool
  | int k => k.small
  | _ => false

theorem isNumeric_of_isIntegral {k : Kind} (h : k.isIntegral = true) : k.isNumeric = true := by
  cases k <;> simp_all [isIntegral, isNumeric]

end Kind

structure TypeSignature where
  kind : Kind
  name : String
  deriving DecidableEq, Repr

namespace TypeSignature

def of (kind : Kind) : TypeSignature :=
  ⟨kind, kind.runtimeName⟩

def classNamed (name : String) : TypeSignature :=
  ⟨.classType, name⟩

def boolean : TypeSignature := .of .boolean

def object : TypeSignature := .of .object

instance : Inhabited TypeSignature := ⟨object⟩

@[simp]
theorem of_kind (k : Kind) : (of k).kind = k := rfl

@[simp]
theorem of_name (k : Kind) : (of k).name = k.runtimeName := rfl

end TypeSignature

end Inspector
