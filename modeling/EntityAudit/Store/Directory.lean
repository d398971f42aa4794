import EntityAudit.Path.SourcePath
import EntityAudit.Store.Basic
import EntityAudit.Volume.Basic

/-!
# `EntityAudit.Store.Directory` — artifacts as files below a directory

Artifacts go to files that follow their packages.  A sink collects bytes and commits all of them at a
flush, or when it is released with bytes that were never committed.  A file that holds the same bytes
already is not written, so that it keeps its time of modification.

## Contents

* `pathFor` — the file of a type
* `PendingFile`, `PendingFile.commit` — a sink
* `Directory.store` — the store
-/

namespace EntityAudit

/-- The file for the source of a type, below a directory. -/
def pathFor (root : Path) (qualifiedName : String) : Path := root.push (sourcePath qualifiedName)

/-- A file to be: the bytes collected so far, and whether some were collected since the last commit. -/
structure PendingFile where
  path : Path
  bytes : ByteArray
  isDirty : Bool

namespace PendingFile

/-- Brings a file up to date; one that holds the bytes already is left alone. -/
def commit (f : PendingFile) (v : Volume) : Reply Volume Unit :=
  let write : Reply Volume Unit :=
    let (result, v') := v.write f.path f.bytes
    ⟨result, v', []⟩
  match v.read f.path with
  | .error _ => write
  | .ok bytes =>
    if bytes.data = f.bytes.data then
      ⟨.ok (), v, [⟨.debug, "artifact unchanged", [("path", f.path.text)]⟩]⟩
    else write

/-- Collects bytes. -/
def collect (f : PendingFile) (bytes : ByteArray) : PendingFile :=
  if bytes.isEmpty then f else { f with bytes := f.bytes ++ bytes, isDirty := true }

/-- Commits; afterwards the file is clean unless that failed. -/
def flush (k : PendingFile × Volume) : Reply (PendingFile × Volume) Unit :=
  let r := k.1.commit k.2
  match r.result with
  | .error e => ⟨.error e, (k.1, r.state), r.events⟩
  | .ok () => ⟨.ok (), ({ k.1 with isDirty := false }, r.state), r.events⟩

/-- Commits what was never committed; a failure can only be logged. -/
def release (k : PendingFile × Volume) : Volume × List Event :=
  if k.1.isDirty then
    let r := k.1.commit k.2
    match r.result with
    | .ok () => (r.state, r.events)
    | .error e =>
      (r.state, r.events ++ [⟨.warn, "unflushed artifact lost",
        [("path", k.1.path.text), ("error", e.message)]⟩])
  else (k.2, [])

end PendingFile

namespace Directory

/-- Opens the sink of a type: the directories of its packages are created at once, its file is not. -/
def openSink (root : Path) (name : String) (v : Volume) : Reply Volume PendingFile :=
  let path := pathFor root name
  let file : PendingFile := ⟨path, ByteArray.empty, false⟩
  match v.createParents path with
  | (.error e, v') => ⟨.error e, v', []⟩
  | (.ok (), v') => ⟨.ok file, v', []⟩

/-- The store that keeps artifacts below a directory. -/
def store (root : Path) : Store Volume PendingFile where
  openSink := openSink root
  write bytes k := ⟨.ok (), (k.1.collect bytes, k.2), []⟩
  flush := PendingFile.flush
  release := PendingFile.release

end Directory

end EntityAudit
