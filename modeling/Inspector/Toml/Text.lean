import Inspector.Toml.Scan

/-!
TOML strings. Text between double quotes knows escapes, text between single quotes does not, and
three quotes in place of one let the text go over several lines.
-/

namespace Inspector.Toml

def hexChar? (n : Nat) (s : List Char) : Option (Char × List Char) :=
  let digits := s.take n
  let code := digitsValue 16 digits
  if digits.length = n ∧ digits.all isHexDigit ∧ code.isValidChar then
    some (Char.ofNat code, s.drop n)
  else
    none

def escape? : List Char → Option (Char × List Char)
  | 'b' :: s => some ('\x08', s)
  | 't' :: s => some ('\t', s)
  | 'n' :: s => some ('\n', s)
  | 'f' :: s => some ('\x0c', s)
  | 'r' :: s => some ('\r', s)
  | 'e' :: s => some ('\x1b', s)
  | '"' :: s => some ('"', s)
  | '\\' :: s => some ('\\', s)
  | 'x' :: s => hexChar? 2 s
  | 'u' :: s => hexChar? 4 s
  | 'U' :: s => hexChar? 8 s
  | _ => none

def skipSpace : List Char → List Char
  | '\n' :: s => skipSpace s
  | '\r' :: '\n' :: s => skipSpace s
  | c :: s => if isBlank c then skipSpace s else c :: s
  | [] => []

def afterFold? (s : List Char) : Option (List Char) :=
  (afterNewline? (skipBlanks s)).map skipSpace

def consRead (c : Char) : Option (List Char × List Char) → Option (List Char × List Char) :=
  Option.map fun (cs, rest) => (c :: cs, rest)

def lineText (quote : Char) (fuel : Nat) (s : List Char) : Option (List Char × List Char) :=
  match fuel, s with
  | fuel + 1, c :: s =>
    if c = quote then some ([], s)
    else if c = '\\' ∧ quote = '"' then
      match escape? s with
      | some (c, s) => consRead c (lineText quote fuel s)
      | none => none
    else if isPrintable c then consRead c (lineText quote fuel s)
    else none
  | _, _ => none

def multilineText (quote : Char) (fuel : Nat) (s : List Char) : Option (List Char × List Char) :=
  match fuel, s with
  | fuel + 1, c :: s =>
    if c = quote then
      let more := (s.takeWhile (· == quote)).length
      if more < 2 then consRead c (multilineText quote fuel s)
      else
        let kept := min (more - 2) 2
        some (List.replicate kept quote, s.drop (kept + 2))
    else if c = '\\' ∧ quote = '"' then
      match afterFold? s with
      | some s => multilineText quote fuel s
      | none =>
        match escape? s with
        | some (c, s) => consRead c (multilineText quote fuel s)
        | none => none
    else if isPrintable c then consRead c (multilineText quote fuel s)
    else
      match afterNewline? (c :: s) with
      | some s => consRead '\n' (multilineText quote fuel s)
      | none => none
  | _, _ => none

def lineText? : List Char → Option (List Char × List Char)
  | '"' :: s => lineText '"' s.length s
  | '\'' :: s => lineText '\'' s.length s
  | _ => none

def text? (s : List Char) : Option (List Char × List Char) :=
  match s with
  | '"' :: '"' :: '"' :: s => body '"' s
  | '\'' :: '\'' :: '\'' :: s => body '\'' s
  | s => lineText? s
where
  body (quote : Char) (s : List Char) : Option (List Char × List Char) :=
    let s := (afterNewline? s).getD s
    multilineText quote s.length s

end Inspector.Toml
