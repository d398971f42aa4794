import EntityAudit.Catalog.Basic
import EntityAudit.Store.Basic

/-!
# `EntityAudit.Store.Memory` — artifacts in memory

The state is a catalog of contents by qualified name.  Opening a sink empties the entry, and every write
reaches it at once, so a flush has nothing left to do.

## Contents

* `Memory`, `Memory.source?` — the state
* `Memory.store` — the store
* `put_memory` — what writing an artifact does
-/

namespace EntityAudit

/-- The contents of artifacts by qualified name. -/
abbrev Memory := Catalog ByteArray

namespace Memory

/-- The contents under a name as text, if they are encoded in UTF-8. -/
def source? (m : Memory) (name : String) : Option String :=
  (m.get? name).bind String.fromUTF8?

/-- Appends bytes to the contents under a name. -/
def append (m : Memory) (name : String) (bytes : ByteArray) : Memory :=
  m.insert name ((m.get? name).getD ByteArray.empty ++ bytes)

/-- The store that keeps artifacts in memory.  A sink is the name that it writes to. -/
def store : Store Memory String where
  openSink name m := ⟨.ok name, m.insert name ByteArray.empty, []⟩
  write bytes k := ⟨.ok (), (k.1, append k.2 k.1 bytes), []⟩
  flush k := ⟨.ok (), k, []⟩
  release k := (k.2, [])

end Memory

/-- Writing an artifact to a memory always succeeds and replaces what was there under its name. -/
theorem put_memory (a : Artifact) (m : Memory) :
    Memory.store.put a m = ⟨.ok (), m.insert a.qualifiedName a.bytes, []⟩ := by
  have hstate : Memory.append (m.insert a.qualifiedName ByteArray.empty) a.qualifiedName a.bytes
      = m.insert a.qualifiedName a.bytes := by
    refine Catalog.ext_get? fun name => ?_
    simp only [Memory.append, Catalog.get?_insert]
    by_cases h : name = a.qualifiedName
    · rw [if_pos h, if_pos h, if_true, Option.getD_some, ByteArray.empty_append]
    · rw [if_neg h, if_neg h, if_neg h]
  show (⟨.ok (), Memory.append (m.insert a.qualifiedName ByteArray.empty) a.qualifiedName a.bytes, []⟩ :
    Reply Memory Unit) = _
  rw [hstate]

end EntityAudit
