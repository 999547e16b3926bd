/-!
Binary operators, their families, and how they are written.
-/

namespace Inspector

inductive Operator where
  | add | sub | mul | div | mod
  | eq | ne | le | ge | lt | gt
  | conditionalAnd | conditionalOr
  | bitAnd | bitOr | bitXor
  | shl | shr | shrUnsigned
  deriving DecidableEq, Repr

inductive Operator.Family where
  | arithmetic | relational | conditional | logical | shift
  deriving DecidableEq, Repr

namespace Operator

def family : Operator → Family
  | add | sub | mul | div | mod => .arithmetic
  | eq | ne | le | ge | lt | gt => .relational
  | conditionalAnd | conditionalOr => .conditional
  | bitAnd | bitOr | bitXor => .logical
  | shl | shr | shrUnsigned => .shift

def isEquality : Operator → Bool
  | eq | ne => true
  | _ => false

def symbol : Operator → String
  | add => "+"
  | sub => "-"
  | mul => "*"
  | div => "/"
  | mod => "%"
  | eq => "=="
  | ne => "!="
  | le => "<="
  | ge => ">="
  | lt => "<"
  | gt => ">"
  | conditionalAnd => "&&"
  | conditionalOr => "||"
  | bitAnd => "&"
  | bitOr => "|"
  | bitXor => "^"
  | shl => "<<"
  | shr => ">>"
  | shrUnsigned => ">>>"

/-- The value of the first operand that settles a conditional operator. -/
def decisive : Operator → Option Bool
  | conditionalAnd => some false
  | conditionalOr => some true
  | _ => none

end Operator

end Inspector
