import EntityAudit.Document.Toml.Format
import EntityAudit.Proofs.Document.Tree

/-!
# `EntityAudit.Proofs.Document.Toml.Trees` — TOML values as trees

A TOML value has a tree unless it holds a floating-point number, a moment, or an integer that is none.  The
format shows the trees of its values, so data is read out of a TOML text as it is read out of the tree.

## Contents

* `Value.tree?`, `IsTextOf` — the tree of a value, and the texts of a tree
* `choiceOfTable_eq_ok_iff`, `lawful_format` — a choice is made by a name
* `tells_tree`, `choice_iff_text`, `shows_tree` — the format shows the trees of its values
* `ofToml_iff_tree` — data is read out of a text as it is read out of its tree
-/

namespace EntityAudit

namespace Toml

/-! ## Trees -/

mutual

/-- The tree of a value, if it has one. -/
def Value.tree? : Value → Option Tree
  | .text s => some (.text s)
  | .integer n => n.map .integer
  | .boolean b => some (.flag b)
  | .array items => (itemTrees? items).map .list
  | .table entries => (entryTrees? entries).bind Tree.ofEntries?
  | .real _ => none
  | .moment => none

/-- The trees of the items of an array. -/
def itemTrees? : List Value → Option (List Tree)
  | [] => some []
  | item :: rest => consPart? item.tree? (itemTrees? rest)

/-- The trees of the entries of a table. -/
def entryTrees? : List (String × Value) → Option (List (String × Tree))
  | [] => some []
  | (key, value) :: rest => consPart? (value.tree?.map (fun t => (key, t))) (entryTrees? rest)

end

/-- The text is a TOML text of the tree. -/
def IsTextOf (text : String) (t : Tree) : Prop := ∃ v, parse? text = some v ∧ v.tree? = some t

theorem forall₂_of_itemTrees? {items : List Value} {ts : List Tree} (h : itemTrees? items = some ts) :
    List.Forall₂ (fun v t => v.tree? = some t) items ts :=
  forall₂_of_parts (q := itemTrees?) (by rw [itemTrees?]) (fun _ _ => by rw [itemTrees?]) h

theorem forall₂_of_entryTrees? {entries : List (String × Value)} {es : List (String × Tree)}
    (h : entryTrees? entries = some es) :
    List.Forall₂ (fun m e => m.1 = e.1 ∧ m.2.tree? = some e.2) entries es := by
  have hparts := forall₂_of_parts (q := entryTrees?)
    (p := fun m : String × Value => m.2.tree?.map (fun t => (m.1, t))) (by rw [entryTrees?])
    (fun _ _ => by rw [entryTrees?]) h
  apply hparts.imp
  intro m e hme
  obtain ⟨t, ht, rfl⟩ := Option.map_eq_some_iff.mp hme
  exact ⟨rfl, ht⟩

/-! ## Choices -/

theorem choiceOfTable_eq_ok_iff {α : Type} {pick : String → Except DocumentFault α}
    {entries : List (String × Value)} {a : α} :
    choiceOfTable pick entries = .ok a ↔ ∃ name value,
      entries = [(name, value)] ∧ (value = .array [] ∨ value = .table []) ∧ pick name = .ok a := by
  match entries with
  | [] => simp [choiceOfTable]
  | _ :: _ :: _ => simp [choiceOfTable]
  | [(name, value)] =>
      rw [choiceOfTable]
      cases hpick : pick name with
      | error e =>
          constructor
          · intro h
            cases h
          · rintro ⟨other, _, heq, -, hother⟩
            cases heq
            rw [hpick] at hother
            cases hother
      | ok b =>
          constructor
          · intro h
            simp only at h
            split at h
            · cases h
              exact ⟨name, _, rfl, Or.inl rfl, hpick⟩
            · cases h
              exact ⟨name, _, rfl, Or.inr rfl, hpick⟩
            all_goals cases h
          · rintro ⟨other, _, heq, hvalue, hother⟩
            cases heq
            rw [hpick] at hother
            cases hother
            rcases hvalue with rfl | rfl
            · rfl
            · rfl

/-- **A choice is made by a name**: the text, or the only key of a table without anything under it. -/
theorem lawful_format : format.Lawful := by
  constructor
  intro α pick v a
  cases v with
  | text name => simp [format]
  | table entries =>
      show choiceOfTable pick entries = .ok a
        ↔ ∃ name, choiceOfTable .ok entries = .ok name ∧ pick name = .ok a
      simp only [choiceOfTable_eq_ok_iff, Except.ok.injEq]
      constructor
      · rintro ⟨name, value, hentries, hvalue, hpick⟩
        exact ⟨name, ⟨name, value, hentries, hvalue, rfl⟩, hpick⟩
      · rintro ⟨_, ⟨name, value, hentries, hvalue, rfl⟩, hpick⟩
        exact ⟨name, value, hentries, hvalue, hpick⟩
  | _ => simp [format]

/-! ## Values and their trees -/

/-- What a value is, its tree is. -/
theorem tells_tree {v : Value} {t : Tree} (h : v.tree? = some t) :
    format.Tells (fun v t => v.tree? = some t) v t := by
  cases v with
  | text s =>
      cases h
      rfl
  | boolean b =>
      cases h
      rfl
  | integer n =>
      obtain ⟨n, rfl, rfl⟩ := Option.map_eq_some_iff.mp h
      rfl
  | array items =>
      rw [Value.tree?] at h
      obtain ⟨ts, hts, rfl⟩ := Option.map_eq_some_iff.mp h
      exact ⟨items, rfl, forall₂_of_itemTrees? hts⟩
  | table members =>
      rw [Value.tree?] at h
      obtain ⟨es, hes, ht⟩ := Option.bind_eq_some_iff.mp h
      obtain ⟨hnodup, rfl⟩ := Tree.ofEntries?_eq_some_iff.mp ht
      exact ⟨members, rfl, sameEntries_sorted hnodup (forall₂_of_entryTrees? hes)⟩
  | real x => cases h
  | moment => cases h

/-- Apart from tables, only texts choose names. -/
theorem choice_iff_text {v : Value} {name : String}
    (h : ∀ members isWhole, v.view ≠ .table members isWhole) :
    format.choice .ok v = .ok name ↔ v.view = .text name := by
  cases v with
  | table members => exact absurd rfl (h members true)
  | _ => simp [format, Value.view]

/-- **The format shows the trees of its values.** -/
theorem shows_tree : format.Shows (fun v t => v.tree? = some t) := ⟨tells_tree, choice_iff_text⟩

end Toml

/-! ## Texts -/

/-- **Data is read out of a text as it is read out of its tree.** -/
theorem ofToml_iff_tree {α : Type} {schema : Schema α} (hkeyed : schema.isKeyed = true) {text : String}
    {t : Tree} (htext : Toml.IsTextOf text t) (hsuits : schema.suits t = true) (a : α) :
    schema.ofToml text = .ok a ↔ schema.ofFormat Tree.format t = .ok a := by
  obtain ⟨v, hparse, htree⟩ := htext
  unfold Schema.ofToml
  rw [hparse]
  exact ofFormat_iff_tree Toml.shows_tree Toml.lawful_format hkeyed htree hsuits a

end EntityAudit
