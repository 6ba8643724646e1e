import RowAccess.Config.Decode
import RowAccess.Files
import RowAccess.Yaml.Value
/-!
# Configurations in files

A configuration is kept in a YAML file, and its settings of tenancy may be kept in a file of their own,
which is found from where the configuration is.
-/

namespace RowAccess

namespace Config

/-- Why a configuration cannot be loaded. -/
inductive LoadError where
  /-- A file cannot be read. -/
  | unreadable
  /-- The text of a file is no YAML, or does not fit. -/
  | malformed
  /-- There is no file of tenancy. -/
  | noTenancyFile (path : String)
  /-- The configuration is not valid. -/
  | invalid (fault : Fault)
deriving DecidableEq, Repr, Inhabited

/-- The message for a configuration that cannot be loaded. -/
def LoadError.message : LoadError → String
  | unreadable => "IO error"
  | malformed => "YAML parse error"
  | noTenancyFile path => invalidMessage ("Tenancy file not found: " ++ path)
  | invalid fault => invalidMessage fault.message

/-- The text of a file. -/
def textAt (files : Files) (path : String) : Except LoadError String :=
  match files path with
  | some (.text text) => .ok text
  | _ => .error .unreadable

/-- Reads a configuration from YAML. -/
def ofYaml? (text : String) : Option Config := Yaml.read? Config.read? text

/-- Reads the settings of tenancy from YAML. -/
def Tenancy.ofYaml? (text : String) : Option Tenancy := Yaml.read? Tenancy.read? text

/-- The configuration in a file, as it is written there. -/
def ofFile (files : Files) (path : String) : Except LoadError Config := do
  match ofYaml? (← textAt files path) with
  | some c => return c
  | none => throw .malformed

/-- The settings of tenancy in a file that is found from a directory. -/
def Tenancy.load (files : Files) (file directory : String) : Except LoadError Tenancy := do
  let path := Path.join directory file
  if (files path).isNone then throw (.noTenancyFile path)
  match Tenancy.ofYaml? (← textAt files path) with
  | some t => return t
  | none => throw .malformed

/-- The configuration in a file, with the settings of tenancy that it refers to. It must be valid. -/
def load (files : Files) (path : String) : Except LoadError Config := do
  let c ← ofFile files path
  let c ← match c.tenancyFile with
    | some file => do pure { c with tenancy := ← Tenancy.load files file (Path.parent path) }
    | none => pure c
  match c.fault? with
  | some fault => throw (.invalid fault)
  | none => return c

/-- The file of tenancy that a configuration refers to, for one that is kept at `path`. -/
def tenancyPath? (c : Config) (path : String) : Option String :=
  c.tenancyFile.map (Path.join (Path.parent path))

end Config

end RowAccess
