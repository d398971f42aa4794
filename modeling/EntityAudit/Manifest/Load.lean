import EntityAudit.Document.Json.Format
import EntityAudit.Document.Model
import EntityAudit.Document.Toml.Format
import EntityAudit.Report.Event
import EntityAudit.Volume.Basic

/-!
# `EntityAudit.Manifest.Load` — reading a manifest

A manifest is a TOML or a JSON file; its extension says which.

## Contents

* `ManifestError`, `ManifestError.message`
* `DocumentKind`, `Manifest.parse` — the manifest in a text
* `Manifest.load` — the manifest in a file
* `Manifest.loadedEvent` — what is logged about it
-/

namespace EntityAudit

/-- What a document is written in. -/
inductive DocumentKind where
  | toml
  | json
deriving DecidableEq, Repr

/-- Why there is no manifest. -/
inductive ManifestError where
  | unreadable (path : String) (cause : IoError)
  | invalid (kind : DocumentKind) (fault : DocumentFault)
  | unsupported (path : String)
deriving DecidableEq, Repr

/-- The name of a kind of documents. -/
def DocumentKind.name : DocumentKind → String
  | toml => "TOML"
  | json => "JSON"

/-- The kind of documents in files with an extension. -/
def DocumentKind.ofExtension? : Option String → Option DocumentKind
  | some "toml" => some toml
  | some "json" => some json
  | _ => none

/-- What is wrong, in words. -/
def ManifestError.message : ManifestError → String
  | unreadable path cause => "failed to read manifest '" ++ path ++ "': " ++ cause.message
  | invalid kind fault => "invalid " ++ kind.name ++ " manifest: " ++ fault.message
  | unsupported path => "manifest '" ++ path ++ "' must have a .toml or .json extension"

/-- The data that a text of a kind stands for. -/
def Schema.ofText {α : Type} (schema : Schema α) : DocumentKind → String → Except DocumentFault α
  | .toml, source => schema.ofToml source
  | .json, source => schema.ofJson source

namespace Manifest

/-- The manifest in a text. -/
def parse (kind : DocumentKind) (text : String) : Except ManifestError Manifest :=
  match Manifest.schema.ofText kind text with
  | .error fault => .error (.invalid kind fault)
  | .ok m => .ok m

/-- The manifest in a file. -/
def load (v : Volume) (path : Path) : Except ManifestError Manifest :=
  match DocumentKind.ofExtension? path.extension? with
  | none => .error (.unsupported path.text)
  | some kind =>
    match v.readText path with
    | .error cause => .error (.unreadable path.text cause)
    | .ok text => parse kind text

/-- What is logged about a manifest that was loaded. -/
def loadedEvent (path : Path) (m : Manifest) : Event :=
  ⟨.debug, "loaded manifest", [("path", path.text), ("types", toString m.types.length)]⟩

end Manifest

end EntityAudit
