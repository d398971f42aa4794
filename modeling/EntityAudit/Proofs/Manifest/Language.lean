import EntityAudit.Manifest.Load
import EntityAudit.Proofs.Document.Json.Records

/-!
# `EntityAudit.Proofs.Manifest.Language` — which JSON texts are manifests

A manifest in JSON is a document of a value that is a manifest.  What is a manifest, a domain type, a
method or a marker is said here in the terms of JSON values; that the shapes by which values are read say
the same is proved.

## Contents

* `IsText`, `IsList` — texts and lists
* `Marker.IsWritten`, `Method.IsWritten`, `DomainType.IsWritten`, `Manifest.IsWritten` — the values for
  each kind of data
* `Marker.denotes_iff`, `Method.denotes_iff`, `DomainType.denotes_iff`, `Manifest.denotes_iff`
* `parse_json_iff` — which texts are manifests
-/

namespace EntityAudit

open Json (Value FieldRule IsRecord)

/-! ## Values -/

/-- The value is the text. -/
def IsText (s : String) (v : Value) : Prop := v = .scalar (.text s)

/-- The value is an array of the items, in their order. -/
def IsList {α : Type} (isItem : α → Value → Prop) (as : List α) (v : Value) : Prop :=
  ∃ items, v = .array items ∧ List.Forall₂ (fun v a => isItem a v) items as

/-- The value is the marker: its name, or an object with the name as its only key and no value. -/
def Marker.IsWritten (m : Marker) (v : Value) : Prop :=
  v = .scalar (.text m.name) ∨ v = .object [(m.name, .scalar .null)]

/-- The value is the method. -/
def Method.IsWritten (m : Method) : Value → Prop :=
  IsRecord
    [⟨"name", IsText m.name, False⟩,
     ⟨"returns", IsText m.returns.text, False⟩,
     ⟨"markers", IsList Marker.IsWritten m.markers, m.markers = []⟩]

/-- The value is the domain type. -/
def DomainType.IsWritten (t : DomainType) : Value → Prop :=
  IsRecord
    [⟨"name", IsText t.name, False⟩,
     ⟨"package", IsText t.package, t.package = ""⟩,
     ⟨"markers", IsList Marker.IsWritten t.markers, t.markers = []⟩,
     ⟨"methods", IsList Method.IsWritten t.methods, t.methods = []⟩]

/-- The value is the manifest. -/
def Manifest.IsWritten (m : Manifest) : Value → Prop :=
  IsRecord [⟨"types", IsList DomainType.IsWritten m.types, m.types = []⟩]

/-! ## Rules of the shapes -/

/-- The shape of texts takes the text. -/
theorem takes_text (s : String) :
    (fun v : Value => Schema.text.Denotes Json.format v.draft s) = IsText s :=
  funext fun _ => propext denotes_text_iff

/-- The shape of lists takes arrays of what that of the items takes. -/
theorem takes_list {α : Type} {item : Schema α} {isItem : α → Value → Prop}
    (h : ∀ v a, item.Denotes Json.format v.draft a ↔ isItem a v) (as : List α) :
    (fun v : Value => (Schema.list item).Denotes Json.format v.draft as) = IsList isItem as := by
  have hitem : (fun (v : Value) a => item.Denotes Json.format v.draft a) = fun v a => isItem a v :=
    funext fun v => funext fun a => propext (h v a)
  funext v
  rw [denotes_list_iff, hitem]
  rfl

theorem mayMiss_required {α : Type} (a : α) : ((Presence.required : Presence α).fallback = some a) = False :=
  propext ⟨fun h => (Option.some_ne_none a h.symm).elim, False.elim⟩

theorem mayMiss_defaulting {α : Type} (a b : α) : ((Presence.defaulting a).fallback = some b) = (b = a) :=
  propext ⟨fun h => (Option.some.inj h).symm, fun h => congrArg some h.symm⟩

theorem mayMiss_unlessEmpty {α : Type} (as : List α) :
    ((Presence.unlessEmpty : Presence (List α)).fallback = some as) = (as = []) :=
  mayMiss_defaulting [] as

/-! ## Shapes -/

theorem Marker.denotes_iff (v : Value) (m : Marker) :
    Marker.schema.Denotes Json.format v.draft m ↔ m.IsWritten v :=
  denotes_choice_iff Marker.mem_all Marker.name_injective

theorem TypeRef.takes_schema (r : TypeRef) :
    (fun v : Value => TypeRef.schema.Denotes Json.format v.draft r) = IsText r.text := by
  rw [← takes_text]
  exact funext fun v => propext (denotes_via_iff _ fun _ => rfl)

/-- The shape of methods says which values are methods. -/
theorem Method.denotes_iff (v : Value) (m : Method) :
    Method.schema.Denotes Json.format v.draft m ↔ m.IsWritten v := by
  rw [Method.schema, denotes_via_iff _ fun _ => rfl, denotes_record_iff, Method.IsWritten]
  simp only [Fields.rules, takes_text, TypeRef.takes_schema, takes_list Marker.denotes_iff,
    mayMiss_required, mayMiss_unlessEmpty]

/-- The shape of domain types says which values are domain types. -/
theorem DomainType.denotes_iff (v : Value) (t : DomainType) :
    DomainType.schema.Denotes Json.format v.draft t ↔ t.IsWritten v := by
  rw [DomainType.schema, denotes_via_iff _ fun _ => rfl, denotes_record_iff, DomainType.IsWritten]
  simp only [Fields.rules, takes_text, takes_list Marker.denotes_iff, takes_list Method.denotes_iff,
    mayMiss_required, mayMiss_defaulting, mayMiss_unlessEmpty]

/-- The shape of manifests says which values are manifests. -/
theorem Manifest.denotes_iff (v : Value) (m : Manifest) :
    Manifest.schema.Denotes Json.format v.draft m ↔ m.IsWritten v := by
  rw [Manifest.schema, denotes_via_iff _ fun _ => rfl, denotes_record_iff, Manifest.IsWritten]
  simp only [Fields.rules, takes_list DomainType.denotes_iff, mayMiss_defaulting]

/-! ## Texts -/

/-- **A JSON text is accepted as a manifest exactly if it is a document of a value that is the manifest.** -/
theorem parse_json_iff {text : String} {m : Manifest} :
    Manifest.parse .json text = .ok m ↔ ∃ v : Value, v.IsDocument text ∧ m.IsWritten v := by
  have hparse : Manifest.parse .json text = .ok m ↔ Manifest.schema.ofJson text = .ok m := by
    rw [Manifest.parse, Schema.ofText]
    cases Manifest.schema.ofJson text <;> simp
  rw [hparse, ofJson_eq_ok_iff (by decide)]
  simp only [Manifest.denotes_iff]

end EntityAudit
