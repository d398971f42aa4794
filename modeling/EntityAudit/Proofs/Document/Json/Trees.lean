import EntityAudit.Proofs.Document.Json.Documents
import EntityAudit.Proofs.Document.Tree

/-!
# `EntityAudit.Proofs.Document.Json.Trees` — JSON values as trees

A JSON value has a tree unless it holds a null, a floating-point number or an object with a repeated key.
The format shows the trees of finished values, so data is read out of a JSON text as it is read out of the
tree.

## Contents

* `Value.tree?`, `IsTextOf` — the tree of a value, and the texts of a tree
* `IsDraftOf`, `tells_tree`, `choice_iff_text`, `shows_tree` — the format shows the trees of its values
* `ofJson_iff_tree` — data is read out of a text as it is read out of its tree
-/

namespace EntityAudit

namespace Json

/-! ## Trees -/

/-- The tree of a value without parts, if it has one. -/
def Scalar.tree? : Scalar → Option Tree
  | .text s => some (.text s)
  | .boolean b => some (.flag b)
  | .number (.integer n) => some (.integer n)
  | .number (.real _) => none
  | .null => none

mutual

/-- The tree of a value, if it has one. -/
def Value.tree? : Value → Option Tree
  | .scalar value => value.tree?
  | .array items => (itemTrees? items).map .list
  | .object members => (memberTrees? members).bind Tree.ofEntries?

/-- The trees of the items of an array. -/
def itemTrees? : List Value → Option (List Tree)
  | [] => some []
  | item :: rest => consPart? item.tree? (itemTrees? rest)

/-- The trees of the members of an object. -/
def memberTrees? : List (String × Value) → Option (List (String × Tree))
  | [] => some []
  | (key, value) :: rest => consPart? (value.tree?.map (fun t => (key, t))) (memberTrees? rest)

end

/-- The text is a JSON text of the tree. -/
def IsTextOf (text : String) (t : Tree) : Prop := ∃ v : Value, v.IsDocument text ∧ v.tree? = some t

/-- The draft is that of a value with the tree. -/
def IsDraftOf (d : Draft) (t : Tree) : Prop := ∃ v : Value, d = v.draft ∧ v.tree? = some t

/-- The drafts of the items of an array have the trees of the items. -/
theorem forall₂_of_itemTrees? {items : List Value} {ts : List Tree} (h : itemTrees? items = some ts) :
    List.Forall₂ IsDraftOf (itemDrafts items) ts := by
  have hparts := forall₂_of_parts (q := itemTrees?) (by rw [itemTrees?]) (fun _ _ => by rw [itemTrees?]) h
  rw [itemDrafts_eq_map, List.forall₂_map_left_iff]
  apply hparts.imp
  intro v t ht
  exact ⟨v, rfl, ht⟩

/-- The drafts of the members of an object have the trees of the members, under the same keys. -/
theorem forall₂_of_memberTrees? {members : List (String × Value)} {es : List (String × Tree)}
    (h : memberTrees? members = some es) :
    List.Forall₂ (fun m e => m.1 = e.1 ∧ IsDraftOf m.2 e.2) (memberDrafts members) es := by
  have hparts := forall₂_of_parts (q := memberTrees?)
    (p := fun m : String × Value => m.2.tree?.map (fun t => (m.1, t))) (by rw [memberTrees?])
    (fun _ _ => by rw [memberTrees?]) h
  rw [memberDrafts_eq_map, List.forall₂_map_left_iff]
  apply hparts.imp
  intro m e hme
  obtain ⟨t, ht, rfl⟩ := Option.map_eq_some_iff.mp hme
  exact ⟨rfl, m.2, rfl, ht⟩

/-! ## Values and their trees -/

/-- What a finished value is, its tree is. -/
theorem tells_tree {d : Draft} {t : Tree} (h : IsDraftOf d t) : format.Tells IsDraftOf d t := by
  obtain ⟨v, rfl, htree⟩ := h
  cases v with
  | scalar value =>
      rw [Value.tree?] at htree
      cases value with
      | text s =>
          cases htree
          rfl
      | boolean b =>
          cases htree
          rfl
      | number n =>
          cases n with
          | integer n =>
              cases htree
              rfl
          | real x => cases htree
      | null => cases htree
  | array items =>
      rw [Value.tree?] at htree
      obtain ⟨ts, hts, rfl⟩ := Option.map_eq_some_iff.mp htree
      exact ⟨itemDrafts items, rfl, forall₂_of_itemTrees? hts⟩
  | object members =>
      rw [Value.tree?] at htree
      obtain ⟨es, hes, ht⟩ := Option.bind_eq_some_iff.mp htree
      obtain ⟨hnodup, rfl⟩ := Tree.ofEntries?_eq_some_iff.mp ht
      exact ⟨memberDrafts members, rfl, sameEntries_sorted hnodup (forall₂_of_memberTrees? hes)⟩

/-- Apart from objects, only texts choose names. -/
theorem choice_iff_text {d : Draft} {name : String}
    (h : ∀ members isWhole, d.view ≠ .table members isWhole) :
    format.choice .ok d = .ok name ↔ d.view = .text name := by
  cases d with
  | scalar value => cases value <;> simp [format, Draft.view]
  | array items isClosed => simp [format, Draft.view]
  | object members isClosed => exact absurd rfl (h members isClosed)
  | missing => simp [format, Draft.view]

/-- **The format shows the trees of finished values.** -/
theorem shows_tree : format.Shows IsDraftOf := ⟨tells_tree, choice_iff_text⟩

end Json

/-! ## Texts -/

/-- **Data is read out of a text as it is read out of its tree.** -/
theorem ofJson_iff_tree {α : Type} {schema : Schema α} (hkeyed : schema.isKeyed = true) {text : String}
    {t : Tree} (htext : Json.IsTextOf text t) (hsuits : schema.suits t = true) (a : α) :
    schema.ofJson text = .ok a ↔ schema.ofFormat Tree.format t = .ok a := by
  obtain ⟨v, hdocument, htree⟩ := htext
  rw [ofJson_of_isDocument hdocument]
  exact ofFormat_iff_tree Json.shows_tree Json.lawful_format hkeyed ⟨v, rfl, htree⟩ hsuits a

end EntityAudit
