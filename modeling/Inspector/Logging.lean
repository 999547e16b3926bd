import Inspector.Config
import Inspector.Logging.Directory

/-!
Setting up logging. A program has one subscriber for its log records, which can be installed once;
log files go into a directory per component. It is created before the subscriber is installed, and
so are directories inside it if the name of the component, and thus of its log file, is a path.
-/

namespace Inspector

inductive LogError where
  | noDirectory (path : String)
  | subscriberInstalled
  | simpleInstalled
  deriving DecidableEq, Repr

def LogError.message : LogError → String
  | noDirectory path => "Failed to create log directory " ++ path
  | subscriberInstalled => "Failed to initialize tracing subscriber: " ++ installed
  | simpleInstalled => "Failed to initialize simple logging: " ++ installed
where
  installed := "a global default trace dispatcher has already been set"

structure Logging where
  /-- Whether there is a folder for temporary files; otherwise nothing can be created in it. -/
  hasScratch : Bool := true
  installed : Bool := false
  directories : List Logging.Directory := []
  deriving DecidableEq, Repr

namespace Logging

def folder : String := "mdb-logs"

def maxPath : Nat := 4095

def join (path rest : String) : String :=
  if rest.startsWith "/" then rest else path ++ "/" ++ rest

def directoryPath (component : String) : String := join folder component

def filePath (component : String) : String :=
  join (directoryPath component) (component ++ ".log")

def start (path : String) : Directory :=
  if path.startsWith "/" then ⟨.root, []⟩ else .scratch

def canUse (l : Logging) (path : String) : Bool :=
  (path.startsWith "/" || l.hasScratch) && path.utf8ByteSize ≤ maxPath &&
    !path.toList.contains '\x00'

def createDirectory (component : String) (l : Logging) : Except LogError Unit × Logging :=
  let path := directoryPath component
  if l.canUse path then
    let (directories, done) := Directory.createAll l.directories (start path) (path.splitOn "/")
    (if done then .ok () else .error (.noDirectory path), { l with directories })
  else
    (.error (.noDirectory path), l)

def openFile (component : String) (l : Logging) : Logging :=
  let path := filePath component
  let above := Directory.steps (path.splitOn "/").dropLast
  { l with directories := (Directory.createAlong l.directories false (start path) above).1 }

def install (error : LogError) (l : Logging) : Except LogError Unit × Logging :=
  if l.installed then (.error error, l) else (.ok (), { l with installed := true })

def init (component : String) (toFile : Bool) (l : Logging) : Except LogError Unit × Logging :=
  if toFile then
    match l.createDirectory component with
    | (.ok (), l) => (l.openFile component).install .subscriberInstalled
    | (.error e, l) => (.error e, l)
  else
    l.install .subscriberInstalled

def initFromConfig (component : String) (config : Config) (l : Logging) :
    Except LogError Unit × Logging :=
  l.init component config.fileLogging

def initSimple (l : Logging) : Except LogError Unit × Logging :=
  l.install .simpleInstalled

def ensure (l : Logging) : Logging := l.initSimple.2

def componentDirectories (l : Logging) : List String :=
  (l.directories.filterMap fun
    | ⟨.scratch 0, [top, name]⟩ => if top = folder then some name else none
    | _ => none).mergeSort

end Logging

end Inspector
