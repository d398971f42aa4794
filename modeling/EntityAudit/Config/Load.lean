import EntityAudit.Document.Model
import EntityAudit.Document.Toml.Format
import EntityAudit.Volume.Basic

/-!
# `EntityAudit.Config.Load` — reading the settings of a project

Settings are kept in a TOML file.  A project without such a file has the defaults.

## Contents

* `ConfigError`, `ConfigError.message`
* `configFileName`
* `Config.parse` — the settings in a text
* `Config.load` — the settings in a file
-/

namespace EntityAudit

/-- Why there are no settings. -/
inductive ConfigError where
  | unreadable (path : String) (cause : IoError)
  | invalid (source : String) (fault : DocumentFault)
  /-- A setting that must not be empty is. -/
  | blank (key : String)
deriving DecidableEq, Repr

/-- What is wrong, in words. -/
def ConfigError.message : ConfigError → String
  | unreadable path cause => "failed to read config '" ++ path ++ "': " ++ cause.message
  | invalid source fault => "invalid config '" ++ source ++ "': " ++ fault.message
  | blank key => "config key 'generator." ++ key ++ "' must not be empty"

/-- The usual name of the file. -/
def configFileName : String := "auditgen.toml"

namespace Config

/-- The settings, unless one that must not be empty is. -/
def validate (c : Config) : Except ConfigError Config :=
  match c.blankKey? with
  | some key => .error (.blank key)
  | none => .ok c

/-- The settings in a text that comes from `source`. -/
def parseFrom (source text : String) : Except ConfigError Config :=
  match Config.schema.ofToml text with
  | .error fault => .error (.invalid source fault)
  | .ok c => c.validate

/-- The settings in a text. -/
def parse (text : String) : Except ConfigError Config := parseFrom "<inline>" text

/-- The settings in a file; without the file, the defaults. -/
def load (v : Volume) (path : Path) : Except ConfigError Config :=
  match v.readText path with
  | .error (.system .notFound) => .ok {}
  | .error cause => .error (.unreadable path.text cause)
  | .ok text => parseFrom path.text text

end Config

end EntityAudit
