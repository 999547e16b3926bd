/-!
The characters of TOML documents, and what stands between the tokens.
-/

namespace Inspector.Toml

def isBlank (c : Char) : Bool := c == ' ' || c == '\t'

def isPrintable (c : Char) : Bool :=
  c == '\t' || (32 ≤ c.toNat && c.toNat ≠ 127)

def isBareKeyChar (c : Char) : Bool := c.isAlphanum || c == '_' || c == '-'

def isScalarChar (c : Char) : Bool := isBareKeyChar c || c == '+' || c == '.' || c == ':'

def isHexDigit (c : Char) : Bool :=
  c.isDigit || ('a' ≤ c && c ≤ 'f') || ('A' ≤ c && c ≤ 'F')

def digitValue (c : Char) : Nat :=
  if c.isDigit then c.toNat - 48
  else if 'a' ≤ c then c.toNat - 87
  else c.toNat - 55

def appendDigits (base n : Nat) (cs : List Char) : Nat :=
  cs.foldl (fun n c => base * n + digitValue c) n

def digitsValue (base : Nat) (cs : List Char) : Nat := appendDigits base 0 cs

def skipBlanks (s : List Char) : List Char := s.dropWhile isBlank

def afterNewline? : List Char → Option (List Char)
  | '\n' :: s | '\r' :: '\n' :: s => some s
  | _ => none

def afterLine? (s : List Char) : Option (List Char) :=
  let s := match skipBlanks s with
    | '#' :: s => s.dropWhile isPrintable
    | s => s
  if s.isEmpty then some [] else afterNewline? s

def skipTrivia : (inComment : Bool) → List Char → Option (List Char)
  | _, [] => some []
  | _, '\n' :: s => skipTrivia false s
  | _, '\r' :: '\n' :: s => skipTrivia false s
  | true, c :: s => if isPrintable c then skipTrivia true s else none
  | false, c :: s =>
    if isBlank c then skipTrivia false s
    else if c = '#' then skipTrivia true s
    else some (c :: s)

end Inspector.Toml
