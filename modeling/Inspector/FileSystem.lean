/-!
Files, as far as a program can tell them apart. How a path leads to a place, through directories and
links and from which one it starts, is up to the file system, and so is where it lets files be
written. Writing changes neither of the two: it replaces all that was there or changes nothing. What
is a file can be read.
-/

namespace Inspector

abbrev FileSystem.Place := List String

inductive FileSystem.Node where
  | file (content : ByteArray)
  | directory

def FileSystem.Node.isDirectory : FileSystem.Node → Bool
  | file _ => false
  | directory => true

structure FileSystem where
  locate : String → Option FileSystem.Place
  writable : FileSystem.Place → Bool
  /-- The first entry of a place counts. -/
  nodes : List (FileSystem.Place × FileSystem.Node)

namespace FileSystem

def node? (fs : FileSystem) (place : Place) : Option Node := fs.nodes.lookup place

def find? (fs : FileSystem) (path : String) : Option Node := (fs.locate path).bind fs.node?

def accepts (fs : FileSystem) (path : String) : Bool :=
  (fs.locate path).any fun place => fs.writable place && !(fs.node? place).any Node.isDirectory

def readText? (fs : FileSystem) (path : String) : Option String :=
  match fs.find? path with
  | some (.file content) => String.fromUTF8? content
  | _ => none

def write? (fs : FileSystem) (path : String) (content : ByteArray) : Option FileSystem :=
  if fs.accepts path then
    (fs.locate path).map fun place => { fs with nodes := (place, .file content) :: fs.nodes }
  else
    none

def join (folder name : String) : String :=
  match folder.toList.getLast? with
  | none | some '/' => folder ++ name
  | _ => folder ++ "/" ++ name

def segments : List Char → List (List Char)
  | [] => [[]]
  | '/' :: path => [] :: segments path
  | c :: path =>
    match segments path with
    | first :: rest => (c :: first) :: rest
    | [] => [[c]]

def maxName : Nat := 255

def maxPath : Nat := 4095

def follow (nodes : List (Place × Node)) : Place → List String → Option Place
  | place, [] => some place
  | place, name :: names =>
    if !(nodes.lookup place).any Node.isDirectory then none
    else if name = "" ∨ name = "." then follow nodes place names
    else if name = ".." then follow nodes place.dropLast names
    else if name.utf8ByteSize ≤ maxName then follow nodes (place ++ [name]) names
    else none

/-- No links, and leave to write any file; relative paths start from `current`. -/
def ofTree (current : Place) (nodes : List (Place × Node)) : FileSystem where
  nodes := ([], .directory) :: nodes
  writable _ := true
  locate path :=
    let cs := path.toList
    if cs.isEmpty || cs.contains '\x00' || maxPath < path.utf8ByteSize then none
    else
      follow (([], .directory) :: nodes) (if cs.head? = some '/' then [] else current)
        ((segments cs).map String.ofList)

section

variable {fs fs' : FileSystem} {path : String} {content : ByteArray}

theorem write_eq_some
    : fs.write? path content = some fs' ↔
      fs.accepts path ∧ ∃ place, fs.locate path = some place ∧
        fs' = { fs with nodes := (place, .file content) :: fs.nodes } := by
  unfold write?
  split
  · next haccepts =>
    rw [Option.map_eq_some_iff]
    simp only [haccepts, true_and, eq_comm]
  · next hrefuses => simp [hrefuses]

theorem write_isSome (content : ByteArray)
    : (∃ fs', fs.write? path content = some fs') ↔ fs.accepts path := by
  simp only [write_eq_some, exists_and_left, and_iff_left_iff_imp]
  intro haccepts
  obtain ⟨place, hplace, _⟩ := (Option.any_eq_true _ _).mp haccepts
  exact ⟨_, place, hplace, rfl⟩

theorem find_write (hwrite : fs.write? path content = some fs')
    : fs'.find? path = some (.file content) := by
  obtain ⟨_, place, hplace, rfl⟩ := write_eq_some.mp hwrite
  simp [find?, node?, hplace]

theorem node_write (hwrite : fs.write? path content = some fs') {place : Place}
    (hother : fs.locate path ≠ some place) : fs'.node? place = fs.node? place := by
  obtain ⟨_, written, hwritten, rfl⟩ := write_eq_some.mp hwrite
  have hne : (place == written) = false := by
    apply beq_eq_false_iff_ne.mpr
    rintro rfl
    exact hother hwritten
  unfold node?
  rw [List.lookup_cons, hne]

end

end FileSystem

end Inspector
