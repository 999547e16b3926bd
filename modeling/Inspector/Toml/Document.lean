import Inspector.Toml.Scalar
import Inspector.Toml.Text

/-!
TOML documents. A document is read statement by statement: a header opens a table, a key with a
value adds to the table that is open. Values and keys may be nested up to a fixed depth. Inside
braces a pair may go over several lines, elsewhere its key, sign and value begin on one. Tables of
booleans and natural numbers behind bare keys can also be written, one entry a line.
-/

namespace Inspector.Toml

def maxDepth : Nat := 80

def maxParts : Nat := maxDepth + 1

def simpleKey? (s : List Char) : Option (String × List Char) :=
  match s.takeWhile isBareKeyChar with
  | [] => (lineText? s).map fun (cs, s) => (String.ofList cs, s)
  | cs => some (String.ofList cs, s.dropWhile isBareKeyChar)

def key? (n : Nat) (s : List Char) : Option ((List String × String) × List Char) :=
  match n with
  | 0 => none
  | n + 1 =>
    match simpleKey? s with
    | none => none
    | some (key, s) =>
      match skipBlanks s with
      | '.' :: s => (key? n (skipBlanks s)).map fun ((path, last), s) => ((key :: path, last), s)
      | s => some (([], key), s)

abbrev Reader (α : Type) := List Char → Option (α × List Char)

def pair? (skip : List Char → Option (List Char)) (value : Reader Toml) :
    Reader ((List String × String) × Toml) := fun s => do
  let (key, s) ← key? maxParts s
  let (v, s) ← value (← skip (← expect '=' (← skip s)))
  return ((key, v), s)

def items? (item : Reader α) (close : Char) (fuel : Nat) : Reader (List α) := fun s =>
  match fuel, skipTrivia false s with
  | fuel + 1, some (c :: s) =>
    if c = close then some ([], s)
    else
      match item (c :: s) with
      | none => none
      | some (a, s) =>
        match skipTrivia false s with
        | some (',' :: s) => (items? item close fuel s).map fun (as, s) => (a :: as, s)
        | some (d :: s) => if d = close then some ([a], s) else none
        | _ => none
  | _, _ => none

def inlineTable? (pairs : List ((List String × String) × Toml)) : Option Toml :=
  (pairs.foldlM (fun entries ((path, key), v) => assign path key v entries) []).map
    (.table .inline)

def value? (depth : Nat) : Reader Toml := fun s =>
  match depth, s with
  | depth + 1, '[' :: s => (items? (value? depth) ']' s.length s).map fun (l, s) => (.array l, s)
  | depth + 1, '{' :: s =>
    match items? (pair? (skipTrivia false) (value? depth)) '}' s.length s with
    | some (pairs, s) => (inlineTable? pairs).map fun t => (t, s)
    | none => none
  | _, '"' :: _ | _, '\'' :: _ =>
    (text? s).map fun (cs, s) => (.text (String.ofList cs), s)
  | _, s => (ofScalar? (scalarText s).1).map fun v => (v, (scalarText s).2)

structure Document where
  root : Entries := []
  header : List String := []

def header? (doc : Document) (s : List Char) : Option (Document × List Char) :=
  match s with
  | '[' :: s =>
    match key? maxParts (skipBlanks s) with
    | some ((path, key), ']' :: ']' :: s) =>
      (openElement path key doc.root).map fun root => (⟨root, path ++ [key]⟩, s)
    | _ => none
  | s =>
    match key? maxParts (skipBlanks s) with
    | some ((path, key), ']' :: s) =>
      (openTable path key doc.root).map fun root => (⟨root, path ++ [key]⟩, s)
    | _ => none

def statement? (doc : Document) (s : List Char) : Option (Document × List Char) :=
  match pair? (some ∘ skipBlanks) (value? maxDepth) s with
  | some (((path, key), v), s) =>
    (assignIn doc.header path key v doc.root).map fun root => ({ doc with root }, s)
  | none => none

def lines? (fuel : Nat) (doc : Document) (s : List Char) : Option Document :=
  match fuel with
  | 0 => none
  | fuel + 1 =>
    match skipBlanks s with
    | [] => some doc
    | c :: s =>
      let step :=
        if c = '[' then header? doc s
        else if c = '#' ∨ c = '\n' ∨ c = '\r' then some (doc, c :: s)
        else statement? doc (c :: s)
      match step with
      | none => none
      | some (doc, s) =>
        match afterLine? s with
        | some s => lines? fuel doc s
        | none => none

/-- The entries of a document. A mark of the byte order at its start does not belong to it. -/
def parse? (s : String) : Option Entries :=
  let cs := match s.toList with
    | '\ufeff' :: cs => cs
    | cs => cs
  (lines? (cs.length + 1) {} cs).map (·.root)

def isBareKey (key : String) : Bool := !key.toList.isEmpty && key.toList.all isBareKeyChar

def word? : Toml → Option (List Char)
  | .boolean b => some (toString b).toList
  | .integer v => if 0 ≤ v ∧ v < UInt64.size then some (Nat.toDigits 10 v.toNat) else none
  | _ => none

def line? : String × Toml → Option (List Char)
  | (key, value) =>
    if isBareKey key then (word? value).map (key.toList ++ ' ' :: '=' :: ' ' :: · ++ ['\n'])
    else none

def print? (entries : Entries) : Option String :=
  (entries.mapM line?).map fun lines => String.ofList lines.flatten

end Inspector.Toml
