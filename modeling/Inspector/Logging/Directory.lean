/-!
Directories of log files, and how all directories along a path are created. A path is a list of
names from the directory where it begins; two dots lead to the parent, an empty name and a single
dot lead nowhere.
-/

namespace Inspector

inductive Logging.Anchor where
  | scratch (above : Nat)
  | root
  deriving DecidableEq, Repr

structure Logging.Directory where
  anchor : Logging.Anchor
  names : List String
  deriving DecidableEq, Repr

namespace Logging.Directory

def scratch : Directory := ⟨.scratch 0, []⟩

def child (d : Directory) (name : String) : Directory :=
  { d with names := d.names ++ [name] }

def parent : Directory → Directory
  | ⟨.scratch above, []⟩ => ⟨.scratch (above + 1), []⟩
  | d => { d with names := d.names.dropLast }

def maxName : Nat := 255

def steps (path : List String) : List String :=
  path.filter fun name => name ≠ "" ∧ name ≠ "."

def endsInDot (path : List String) : Bool :=
  (path.reverse.dropWhile (· == "")).head? == some "."

/--
Take steps from a directory and create what is missing, until a name is too long. If `lastExists`
is set, the directory of the last name cannot be created but has to be there. The result is what
there is afterwards, and whether all steps were taken.
-/
def createAlong (existing : List Directory) (lastExists : Bool) (here : Directory) :
    List String → List Directory × Bool
  | [] => (existing, true)
  | name :: rest =>
    if name = ".." then createAlong existing lastExists here.parent rest
    else if name.utf8ByteSize > maxName then (existing, false)
    else if here.child name ∈ existing then
      createAlong existing lastExists (here.child name) rest
    else if lastExists ∧ rest = [] then (existing, false)
    else createAlong (existing ++ [here.child name]) lastExists (here.child name) rest

/--
Create the directories along a path. The name of the last one has to stand at the end: with a dot
behind it, it names something inside a directory that is not there yet.
-/
def createAll (existing : List Directory) (here : Directory) (path : List String) :
    List Directory × Bool :=
  createAlong existing (endsInDot path) here (steps path)

end Logging.Directory

end Inspector
