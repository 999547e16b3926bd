import Inspector.Toml.Basic
import Inspector.Toml.Scan

/-!
TOML scalars other than strings: booleans, integers, floats, and dates and times.
-/

namespace Inspector.Toml

def separated? (isDigit : Char → Bool) : List Char → Option (List Char)
  | [] => none
  | [c] => if isDigit c then some [c] else none
  | c :: '_' :: s => if isDigit c then (separated? isDigit s).map (c :: ·) else none
  | c :: s => if isDigit c then (separated? isDigit s).map (c :: ·) else none

def isOctalDigit (c : Char) : Bool := '0' ≤ c && c ≤ '7'

def isBinaryDigit (c : Char) : Bool := c == '0' || c == '1'

def decimal? (s : List Char) : Option Nat :=
  match separated? Char.isDigit s with
  | some ['0'] => some 0
  | some ('0' :: _) => none
  | some ds => some (digitsValue 10 ds)
  | none => none

def unsign : List Char → Bool × List Char
  | '+' :: s => (false, s)
  | '-' :: s => (true, s)
  | s => (false, s)

/-- An integer; it has to fit into 128 bits, with or without a sign. -/
def integer? (s : List Char) : Option Int :=
  let v? : Option Int := match s with
    | '0' :: 'x' :: s => (separated? isHexDigit s).map fun ds => digitsValue 16 ds
    | '0' :: 'o' :: s => (separated? isOctalDigit s).map fun ds => digitsValue 8 ds
    | '0' :: 'b' :: s => (separated? isBinaryDigit s).map fun ds => digitsValue 2 ds
    | s =>
      let (negative, s) := unsign s
      (decimal? s).map fun n => if negative then -(n : Int) else n
  v?.filter fun v => (BitVec.intMin 128).toInt ≤ v ∧ v ≤ (BitVec.allOnes 128).toNat

/-- Halfway from the largest finite double to the next power of two. -/
def doubleLimit : Nat := ((1 <<< 54) - 1) <<< 970

def isFinite (m : Nat) (e : Int) : Bool :=
  let size : Int := (Nat.toDigits 10 m).length + e
  if m = 0 ∨ size < 300 then true
  else if size > 310 then false
  else if e < 0 then m < doubleLimit * Nat.pow 10 e.natAbs
  else m * Nat.pow 10 e.natAbs < doubleLimit

def exponent? (s : List Char) : Option Int :=
  let (negative, s) := unsign s
  (separated? Char.isDigit s).map fun ds =>
    let n : Int := digitsValue 10 ds
    if negative then -n else n

def isFloat (s : List Char) : Bool :=
  let s := (unsign s).2
  if s = ['i', 'n', 'f'] ∨ s = ['n', 'a', 'n'] then true
  else
    let isPart (c : Char) := c.isDigit || c == '_'
    match decimal? (s.takeWhile isPart), s.dropWhile isPart with
    | some n, '.' :: s =>
      match separated? Char.isDigit (s.takeWhile isPart), s.dropWhile isPart with
      | some ds, [] => isFinite (appendDigits 10 n ds) (-ds.length)
      | some ds, c :: s =>
        match exponent? s with
        | some e => (c == 'e' || c == 'E') &&
            isFinite (appendDigits 10 n ds) (e - ds.length)
        | none => false
      | none, _ => false
    | some n, c :: s =>
      match exponent? s with
      | some e => (c == 'e' || c == 'E') && isFinite n e
      | none => false
    | _, _ => false

def bounded? (n lo hi : Nat) (s : List Char) : Option (Nat × List Char) :=
  let digits := s.take n
  let v := digitsValue 10 digits
  if digits.length = n ∧ digits.all Char.isDigit ∧ lo ≤ v ∧ v ≤ hi then some (v, s.drop n)
  else none

def expect (c : Char) : List Char → Option (List Char)
  | d :: s => if c = d then some s else none
  | [] => none

def daysInMonth (year month : Nat) : Nat :=
  if month = 2 then
    if year % 4 = 0 ∧ (year % 100 ≠ 0 ∨ year % 400 = 0) then 29 else 28
  else if month = 4 ∨ month = 6 ∨ month = 9 ∨ month = 11 then 30
  else 31

def afterDate? (s : List Char) : Option (List Char) := do
  let (year, s) ← bounded? 4 0 9999 s
  let (month, s) ← bounded? 2 1 12 (← expect '-' s)
  let (_, s) ← bounded? 2 1 (daysInMonth year month) (← expect '-' s)
  return s

def afterTime? (s : List Char) : Option (List Char) := do
  let (_, s) ← bounded? 2 0 23 s
  let (_, s) ← bounded? 2 0 59 (← expect ':' s)
  match s with
  | ':' :: s =>
    let (_, s) ← bounded? 2 0 60 s
    match s with
    | '.' :: c :: s => if c.isDigit then return s.dropWhile Char.isDigit else none
    | s => return s
  | s => return s

def isOffset : List Char → Bool
  | ['Z'] | ['z'] => true
  | c :: s =>
    (c == '+' || c == '-') &&
      match bounded? 2 0 23 s with
      | some (_, ':' :: s) => (bounded? 2 0 59 s).any (·.2.isEmpty)
      | _ => false
  | [] => false

def isDateTime (s : List Char) : Bool :=
  match afterDate? s with
  | some [] => true
  | some (c :: s) =>
    (c == 'T' || c == 't' || c == ' ') &&
      match afterTime? s with
      | some s => s.isEmpty || isOffset s
      | none => false
  | none => (afterTime? s).any (·.isEmpty)

def scalarText (s : List Char) : List Char × List Char :=
  let first := s.takeWhile isScalarChar
  match afterDate? first, s.dropWhile isScalarChar with
  | some [], ' ' :: c :: s =>
    if c.isDigit then
      (first ++ ' ' :: (c :: s).takeWhile isScalarChar, (c :: s).dropWhile isScalarChar)
    else (first, ' ' :: c :: s)
  | _, rest => (first, rest)

def ofScalar? (s : List Char) : Option Toml :=
  if s = "true".toList then some (.boolean true)
  else if s = "false".toList then some (.boolean false)
  else
    match integer? s with
    | some v => some (.integer v)
    | none =>
      if isFloat s then some (.float (String.ofList s))
      else if isDateTime s then some (.dateTime (String.ofList s))
      else none

end Inspector.Toml
