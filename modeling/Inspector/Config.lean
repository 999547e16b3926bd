import Inspector.FileSystem
import Inspector.Text
import Inspector.Toml.Basic

/-!
Settings of the inspection of a paused debuggee, and the files that keep them. How the fields of the
settings become a table and how a table becomes a text is left to a format: it may refuse to write,
and it decides what a table has to look like to be read.
-/

namespace Inspector

structure Config where
  propertyEvaluation : Bool := true
  /-- Milliseconds until a live evaluation is given up; zero waits for ever. -/
  evalTimeoutMs : UInt64 := 5000
  fileLogging : Bool := false
  deriving DecidableEq, Repr

/-- Fields become entries of a table, and a table becomes a text. Reading takes the way back; there
a table need not have all fields, and the settings that are given are the default. -/
structure Config.Format where
  encode : Config → Toml.Entries
  write : Toml.Entries → Option String
  read : String → Option Toml.Entries
  decode : Config → Toml.Entries → Option Config

inductive ConfigError where
  | noHome
  | unreadable (path : String)
  | malformed
  | unserializable
  | unwritable (path : String)
  deriving DecidableEq, Repr

def ConfigError.message : ConfigError → String
  | noHome => "Unable to determine home directory"
  | unreadable path => "Failed to read config file: " ++ Text.quote path
  | malformed => "Failed to parse config file as TOML"
  | unserializable => "Failed to serialize config to TOML"
  | unwritable path => "Failed to write config file: " ++ Text.quote path

namespace Config

def evalTimeout (c : Config) : Option UInt64 :=
  if c.evalTimeoutMs > 0 then some c.evalTimeoutMs else none

def fields (c : Config) : Toml.Entries := [
  ("property_evaluation", .boolean c.propertyEvaluation),
  ("eval_timeout_ms", .integer c.evalTimeoutMs.toNat),
  ("file_logging", .boolean c.fileLogging)]

def homePath (home : String) : String := FileSystem.join home ".mdb.toml"

variable (format : Format)

def loadFrom (path : String) (fs : FileSystem) : Except ConfigError Config :=
  match fs.readText? path with
  | none => .error (.unreadable path)
  | some text =>
    match (format.read text).bind (format.decode {}) with
    | none => .error .malformed
    | some c => .ok c

def saveTo (c : Config) (path : String) (fs : FileSystem) : Except ConfigError FileSystem :=
  match format.write (format.encode c) with
  | none => .error .unserializable
  | some text =>
    match fs.write? path text.toUTF8 with
    | none => .error (.unwritable path)
    | some fs => .ok fs

def load (home : Option String) (fs : FileSystem) : Except ConfigError Config × FileSystem :=
  match home.map homePath with
  | none => (.error .noHome, fs)
  | some path =>
    if (fs.find? path).isNone then
      match saveTo format {} path fs with
      | .error e => (.error e, fs)
      | .ok fs => (.ok {}, fs)
    else
      (loadFrom format path fs, fs)

end Config

end Inspector
