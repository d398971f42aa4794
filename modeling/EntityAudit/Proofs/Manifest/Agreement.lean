import EntityAudit.Manifest.Load
import EntityAudit.Proofs.Document.Json.RoundTrip
import EntityAudit.Proofs.Document.Json.Trees
import EntityAudit.Proofs.Document.Toml.Trees

/-!
# `EntityAudit.Proofs.Manifest.Agreement` — a manifest may be written in either format

Texts of the same tree are the same manifest, or none of them is one, whichever formats they are in.  The
order of the entries is no part of the tree, so it may be different in the texts.  Only the success is the
same: which fault is found first depends on the order in which a format visits the entries.

## Contents

* `DocumentKind.IsTextOf` — the texts of a tree
* `ofText_iff_tree`, `Manifest.parse_eq_ok_iff` — what is read out of them
* `Manifest.formats_agree`, `Manifest.formats_agree_car` — both formats have the same manifests
-/

namespace EntityAudit

/-! ## Texts of a tree -/

/-- The text is a text of the tree, in the format of the kind. -/
def DocumentKind.IsTextOf : DocumentKind → String → Tree → Prop
  | .toml => Toml.IsTextOf
  | .json => Json.IsTextOf

/-- In every format, data is read out of a text as it is read out of its tree. -/
theorem ofText_iff_tree {α : Type} {schema : Schema α} (hkeyed : schema.isKeyed = true)
    {kind : DocumentKind} {text : String} {t : Tree} (htext : kind.IsTextOf text t)
    (hsuits : schema.suits t = true) (a : α) :
    schema.ofText kind text = .ok a ↔ schema.ofFormat Tree.format t = .ok a := by
  cases kind with
  | toml => exact ofToml_iff_tree hkeyed htext hsuits a
  | json => exact ofJson_iff_tree hkeyed htext hsuits a

namespace Manifest

theorem isKeyed_schema : Manifest.schema.isKeyed = true := by decide

theorem parse_eq_ok_iff {kind : DocumentKind} {text : String} {m : Manifest} :
    Manifest.parse kind text = .ok m ↔ Manifest.schema.ofText kind text = .ok m := by
  unfold Manifest.parse
  cases Manifest.schema.ofText kind text <;> simp

/-- **Texts of the same tree are the same manifest, or none of them is one**, if no list is in place of a
record and no table in place of a marker. -/
theorem formats_agree {kind other : DocumentKind} {text otherText : String} {t : Tree}
    (htext : kind.IsTextOf text t) (hother : other.IsTextOf otherText t)
    (hsuits : Manifest.schema.suits t = true) :
    (∃ m, Manifest.parse kind text = .ok m ∧ Manifest.parse other otherText = .ok m)
      ∨ ∃ e f, Manifest.parse kind text = .error e ∧ Manifest.parse other otherText = .error f := by
  have hsame (m : Manifest) : Manifest.parse kind text = .ok m ↔ Manifest.parse other otherText = .ok m := by
    rw [parse_eq_ok_iff, parse_eq_ok_iff, ofText_iff_tree isKeyed_schema htext hsuits,
      ofText_iff_tree isKeyed_schema hother hsuits]
  cases hfirst : Manifest.parse kind text with
  | ok m => exact Or.inl ⟨m, rfl, (hsame m).mp hfirst⟩
  | error e =>
      cases hsecond : Manifest.parse other otherText with
      | ok m =>
          -- The second text would be a manifest, and so would the first.
          rw [(hsame m).mpr hsecond] at hfirst
          cases hfirst
      | error f => exact Or.inr ⟨e, f, rfl, rfl⟩

/-- The tree of a manifest with one type. -/
def carTree : Tree :=
  .table [("types", .list [.table [("markers", .list [.text "Auditable"]), ("name", .text "Car")]])]

/-- A TOML text of that tree. -/
def carToml : String := "[[types]]\nname = \"Car\"\nmarkers = [\"Auditable\"]\n"

/-- A JSON text of that tree, with the entries of the type in another order. -/
def carJson : String := "\x7b\"types\":[\x7b\"markers\":[\"Auditable\"],\"name\":\"Car\"\x7d]\x7d"

theorem isTextOf_carToml : DocumentKind.toml.IsTextOf carToml carTree := by
  refine ⟨.table [("types", .array [.table
    [("markers", .array [.text "Auditable"]), ("name", .text "Car")]])], ?_, by rfl⟩
  let markers : Toml.Value := .array [.text "Auditable"]
  let d : Toml.Document :=
    ⟨["types"], [("types", .tables [[("markers", .value markers), ("name", .value (.text "Car"))]])]⟩
  rw [carToml]
  refine Toml.parse?_ofList (d := d)
    [.item ⟨[], "types"⟩, .entry ⟨[], "name"⟩ (.text "Car"), .entry ⟨[], "markers"⟩ markers] ?_ ?_
  · rfl
  · rfl

open Json in
theorem isTextOf_carJson : DocumentKind.json.IsTextOf carJson carTree := by
  let markers : Value := .array [.scalar (.text "Auditable")]
  let type : Value := .object [("markers", markers), ("name", .scalar (.text "Car"))]
  have hmarkers : markers.Written := written_array (by simp [written_text])
  have htype : type.Written := written_object (by simp [hmarkers, written_text])
  have htypes : (Value.array [type]).Written := written_array (by simp [htype])
  have hmanifest : (Value.object [("types", .array [type])]).Written := written_object (by simp [htypes])
  have hrender : carJson = (Value.object [("types", .array [type])]).render := by rfl
  rw [hrender]
  exact ⟨_, hmanifest.isDocument, by rfl⟩

/-- Both texts are the manifest with that type. -/
theorem formats_agree_car :
    DocumentKind.toml.IsTextOf carToml carTree ∧ DocumentKind.json.IsTextOf carJson carTree
      ∧ Manifest.schema.suits carTree = true
      ∧ ((∃ m, Manifest.parse .toml carToml = .ok m ∧ Manifest.parse .json carJson = .ok m)
        ∨ ∃ e f, Manifest.parse .toml carToml = .error e ∧ Manifest.parse .json carJson = .error f) := by
  have hsuits : Manifest.schema.suits carTree = true := by rfl
  exact ⟨isTextOf_carToml, isTextOf_carJson, hsuits, formats_agree isTextOf_carToml isTextOf_carJson hsuits⟩

end Manifest

end EntityAudit
