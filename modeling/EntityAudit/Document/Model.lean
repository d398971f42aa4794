import EntityAudit.Config.Basic
import EntityAudit.Document.Schema
import EntityAudit.Domain.DomainType

/-!
# `EntityAudit.Document.Model` — the shapes of manifests and settings

## Contents

* `ValueType.schema`, `Marker.schema`, `TypeRef.schema`
* `Method.schema`, `DomainType.schema`, `Manifest.schema`
* `Naming.schema`, `GeneratorConfig.schema`, `Config.schema`
-/

namespace EntityAudit

/-! ## Manifests -/

theorem Marker.mem_all (m : Marker) : m ∈ Marker.all := by
  cases m <;> decide

theorem Marker.name_injective (m n : Marker) (h : m.name = n.name) : m = n := by
  cases m <;> cases n <;> first | rfl | exact absurd h (by decide)

/-- A value type is chosen by its simple name. -/
def ValueType.schema : Schema ValueType :=
  .choice ValueType.all ValueType.simpleName ValueType.mem_all (fun _ _ => ValueType.simpleName_injective)

/-- A marker is chosen by its name. -/
def Marker.schema : Schema Marker := .choice Marker.all Marker.name Marker.mem_all Marker.name_injective

/-- A reference is written as its text. -/
def TypeRef.schema : Schema TypeRef := .via .text TypeRef.mk TypeRef.text (fun _ => rfl)

/-- The fields of a method. -/
def Method.schema : Schema Method :=
  .via
    (.record "Method"
      (.cons "name" .text .required
        (.cons "returns" TypeRef.schema .required
          (.cons "markers" (.list Marker.schema) .unlessEmpty .nil))))
    (fun (name, returns, markers, ()) => ⟨name, returns, markers⟩)
    (fun m => (m.name, m.returns, m.markers, ()))
    (fun _ => rfl)

/-- The fields of a domain type. -/
def DomainType.schema : Schema DomainType :=
  .via
    (.record "DomainType"
      (.cons "name" .text .required
        (.cons "package" .text (.defaulting "")
          (.cons "markers" (.list Marker.schema) .unlessEmpty
            (.cons "methods" (.list Method.schema) .unlessEmpty .nil)))))
    (fun (name, package, markers, methods, ()) => ⟨name, package, markers, methods⟩)
    (fun t => (t.name, t.package, t.markers, t.methods, ()))
    (fun _ => rfl)

/-- The fields of a manifest. -/
def Manifest.schema : Schema Manifest :=
  .via (.record "Manifest" (.cons "types" (.list DomainType.schema) (.defaulting []) .nil))
    (fun (types, ()) => ⟨types⟩) (fun m => (m.types, ())) (fun _ => rfl)

/-! ## Settings -/

/-- The fields of a naming. -/
def Naming.schema : Schema Naming :=
  .via
    (.record "AuditNaming"
      (.cons "package" .text (.defaulting ({} : Naming).package)
        (.cons "suffix" .text (.defaulting ({} : Naming).suffix) .nil)))
    (fun (package, suffix, ()) => ⟨package, suffix⟩) (fun n => (n.package, n.suffix, ()))
    (fun _ => rfl)

/-- The fields of the settings of the generator. -/
def GeneratorConfig.schema : Schema GeneratorConfig :=
  .via
    (.record "GeneratorConfig"
      (.cons "package" .text (.defaulting ({} : GeneratorConfig).package)
        (.cons "suffix" .text (.defaulting ({} : GeneratorConfig).suffix)
          (.cons "out_dir" .path .unlessNone
            (.cons "emit_interface" .flag (.defaulting false) .nil)))))
    (fun (package, suffix, outDir, emitInterface, ()) => ⟨package, suffix, outDir, emitInterface⟩)
    (fun c => (c.package, c.suffix, c.outDir, c.emitInterface, ()))
    (fun _ => rfl)

/-- The fields of the settings of a project. -/
def Config.schema : Schema Config :=
  .via (.record "Config" (.cons "generator" GeneratorConfig.schema (.defaulting {}) .nil))
    (fun (generator, ()) => ⟨generator⟩) (fun c => (c.generator, ())) (fun _ => rfl)

end EntityAudit
