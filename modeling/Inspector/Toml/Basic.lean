/-!
TOML tables, and the rules by which the statements of a document build them up. A table remembers
how it came into being, because that decides which later statements may still add to it.
-/

namespace Inspector

inductive Toml.Origin where
  /-- By a header of its own. The root of a document counts as such. -/
  | header
  | implicit
  | dotted
  /-- Between braces. Nothing can be added to it. -/
  | inline
  deriving DecidableEq, Repr

inductive Toml where
  | boolean (b : Bool)
  | integer (v : Int)
  | float (literal : String)
  | dateTime (literal : String)
  | text (content : String)
  | array (elements : List Toml)
  | table (origin : Toml.Origin) (entries : List (String × Toml))
  | tables (elements : List (List (String × Toml)))

namespace Toml

abbrev Entries := List (String × Toml)

def alter (key : String) (f : Option Toml → Option Toml) : Entries → Option Entries
  | [] => (f none).map fun t => [(key, t)]
  | (k, t) :: rest =>
    if k = key then (f (some t)).map fun t => (k, t) :: rest
    else (alter key f rest).map ((k, t) :: ·)

def Origin.underway (dotted : Bool) : Origin :=
  if dotted then .dotted else .implicit

/--
Change the table at a path. A path leads through the last element of an array of tables, but the
path of a dotted key leads through no other table with a header.
-/
def update (dotted : Bool) (f : Origin → Entries → Option Entries) :
    List String → Origin → Entries → Option Entries
  | [], origin, entries => f origin entries
  | key :: path, _, entries =>
    entries |> alter key fun
      | none => do
        let origin := .underway dotted
        return .table origin (← update dotted f path origin [])
      | some (.table origin inner) =>
        if origin = .inline ∨ dotted ∧ origin = .header then none
        else return .table origin (← update dotted f path origin inner)
      | some (.tables elements) => do
        let last ← elements.getLast?
        return .tables (elements.dropLast ++ [← update dotted f path .header last])
      | _ => none

def setNew (key : String) (value : Toml) : Entries → Option Entries :=
  alter key fun
    | none => some value
    | some _ => none

def assign (path : List String) (key : String) (value : Toml) (entries : Entries) :
    Option Entries :=
  update true (fun origin inner =>
    if (origin = .dotted) = (path ≠ []) then setNew key value inner else none)
    path .header entries

def openTable (path : List String) (key : String) (entries : Entries) : Option Entries :=
  update false (fun _ => alter key fun
    | none => some (.table .header [])
    | some (.table .implicit inner) => some (.table .header inner)
    | _ => none) path .header entries

def openElement (path : List String) (key : String) (entries : Entries) : Option Entries :=
  update false (fun _ => alter key fun
    | none => some (.tables [[]])
    | some (.tables elements) => some (.tables (elements ++ [[]]))
    | _ => none) path .header entries

def assignIn (header path : List String) (key : String) (value : Toml) (entries : Entries) :
    Option Entries :=
  update false (fun _ => assign path key value) header .header entries

end Toml

end Inspector
