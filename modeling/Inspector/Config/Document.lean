import Inspector.Config
import Inspector.Toml.Document

/-!
Settings as a TOML document. Keys that are missing take their defaults, keys that are not known
are passed over, and a known key has to have a value of its type.
-/

namespace Inspector.Config

open Toml (Entries)

def setting (entries : Entries) (key : String) (read : Toml → Option α) (default : α) : Option α :=
  match entries.lookup key with
  | some t => read t
  | none => some default

def readBoolean : Toml → Option Bool
  | .boolean b => some b
  | _ => none

def readMilliseconds : Toml → Option UInt64
  | .integer v => if 0 ≤ v ∧ v < UInt64.size then some (.ofNat v.toNat) else none
  | _ => none

def ofEntries? (default : Config) (entries : Entries) : Option Config := do
  return {
    propertyEvaluation :=
      ← setting entries "property_evaluation" readBoolean default.propertyEvaluation
    evalTimeoutMs := ← setting entries "eval_timeout_ms" readMilliseconds default.evalTimeoutMs
    fileLogging := ← setting entries "file_logging" readBoolean default.fileLogging }

def Format.toml : Format where
  encode := fields
  write := Toml.print?
  read := Toml.parse?
  decode := ofEntries?

end Inspector.Config
