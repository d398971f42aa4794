import EntityAudit.Document.Json.Format
import EntityAudit.Proofs.Document.Denotation
import EntityAudit.Proofs.Document.Json.Reader

/-!
# `EntityAudit.Proofs.Document.Json.Documents` — data in documents

A text is accepted for a schema exactly if it is a document of a value that stands for data, and the data
is what is read.  The value is never unfinished: a fault in the text counts even where all data was found
before it.

## Contents

* `lawful_format` — a choice is made by a name
* `choice_draft_iff`, `view_draft_text_iff`, `view_draft_sequence_iff`, `view_draft_table_iff` — what a
  finished value is
* `ofJson_of_isDocument`, `ofJson_eq_ok_iff` — what is read of documents, and which texts are accepted
-/

namespace EntityAudit

namespace Json

/-! ## The format -/

theorem choiceOfMembers_eq_ok_iff {α : Type} {pick : String → Except DocumentFault α}
    {members : List (String × Draft)} {isClosed : Bool} {a : α} :
    choiceOfMembers pick members isClosed = .ok a ↔
      ∃ name, members = [(name, .scalar .null)] ∧ isClosed = true ∧ pick name = .ok a := by
  cases members with
  | nil => simp [choiceOfMembers]
  | cons m rest =>
      obtain ⟨name, value⟩ := m
      rw [choiceOfMembers]
      cases hpick : pick name with
      | error e =>
          constructor
          · intro h
            cases h
          · rintro ⟨other, heq, -, hother⟩
            obtain ⟨hfirst, -⟩ := List.cons.inj heq
            cases hfirst
            rw [hpick] at hother
            cases hother
      | ok b =>
          constructor
          · intro h
            simp only at h
            split at h
            · obtain ⟨hwhole, rfl⟩ := provided_eq_ok_iff.mp h
              obtain ⟨hempty, hclosed⟩ := Bool.and_eq_true_iff.mp hwhole
              rw [List.isEmpty_iff.mp hempty]
              exact ⟨name, rfl, hclosed, hpick⟩
            · cases h
          · rintro ⟨other, heq, rfl, hother⟩
            obtain ⟨hfirst, rfl⟩ := List.cons.inj heq
            cases hfirst
            rw [hpick] at hother
            cases hother
            rfl

/-- **A choice is made by a name**: the text, or the only key of an object without a value. -/
theorem lawful_format : format.Lawful := by
  constructor
  intro α pick d a
  cases d with
  | scalar value =>
      cases value with
      | text name => simp [format]
      | _ => simp [format]
  | object members isClosed =>
      show choiceOfMembers pick members isClosed = .ok a
        ↔ ∃ name, choiceOfMembers .ok members isClosed = .ok name ∧ pick name = .ok a
      simp only [choiceOfMembers_eq_ok_iff, Except.ok.injEq]
      constructor
      · rintro ⟨name, hmembers, hclosed, hpick⟩
        exact ⟨name, ⟨name, hmembers, hclosed, rfl⟩, hpick⟩
      · rintro ⟨name, ⟨other, hmembers, hclosed, rfl⟩, hpick⟩
        exact ⟨other, hmembers, hclosed, hpick⟩
  | array items isClosed => simp [format]
  | missing => simp [format]

/-! ## Values -/

/-- Which names finished values choose. -/
theorem choice_draft_iff {v : Value} {name : String} :
    format.choice .ok v.draft = .ok name ↔
      v = .scalar (.text name) ∨ v = .object [(name, .scalar .null)] := by
  cases v with
  | scalar value =>
      cases value with
      | text s =>
          show Except.ok s = .ok name ↔ _
          simp
      | _ => simp [Value.draft, format]
  | array items => simp [Value.draft, format]
  | object members =>
      show choiceOfMembers .ok (memberDrafts members) true = .ok name ↔ _
      rw [choiceOfMembers_eq_ok_iff, memberDrafts_eq_map]
      constructor
      · rintro ⟨other, hmembers, -, hother⟩
        cases hother
        obtain ⟨m, rfl, hm⟩ := List.map_eq_singleton_iff.mp hmembers
        obtain ⟨key, value⟩ := m
        obtain ⟨rfl, hvalue⟩ := Prod.mk.inj hm
        cases value with
        | scalar value =>
            cases hvalue
            exact Or.inr rfl
        | array items => cases hvalue
        | object members => cases hvalue
      · rintro (heq | heq)
        · cases heq
        · cases heq
          exact ⟨name, rfl, rfl, rfl⟩

theorem view_draft_text_iff {v : Value} {s : String} :
    v.draft.view = .text s ↔ v = .scalar (.text s) := by
  cases v with
  | scalar value => cases value <;> simp [Value.draft, Draft.view]
  | array items => simp [Value.draft, Draft.view]
  | object members => simp [Value.draft, Draft.view]

theorem view_draft_sequence_iff {v : Value} {items : List Draft} {isWhole : Bool} :
    v.draft.view = .sequence items isWhole ↔
      ∃ values, v = .array values ∧ items = values.map Value.draft ∧ isWhole = true := by
  cases v with
  | scalar value => cases value <;> simp [Value.draft, Draft.view]
  | array values => simp [Value.draft, Draft.view, itemDrafts_eq_map, eq_comm]
  | object members => simp [Value.draft, Draft.view]

theorem view_draft_table_iff {v : Value} {members : List (String × Draft)} {isWhole : Bool} :
    v.draft.view = .table members isWhole ↔
      ∃ values, v = .object values ∧ members = values.map draftOfMember ∧ isWhole = true := by
  cases v with
  | scalar value => cases value <;> simp [Value.draft, Draft.view]
  | array values => simp [Value.draft, Draft.view]
  | object members => simp [Value.draft, Draft.view, memberDrafts_eq_map, eq_comm]

/-- The keys of an object are those of its draft. -/
theorem keys_map_draftOfMember (members : List (String × Value)) :
    (members.map draftOfMember).map Prod.fst = members.map Prod.fst := by
  rw [List.map_map]
  rfl

end Json

/-! ## Texts -/

/-- In a document, data is read out of the value. -/
theorem ofJson_of_isDocument {α : Type} {schema : Schema α} {v : Json.Value} {text : String}
    (h : v.IsDocument text) : schema.ofJson text = schema.ofFormat Json.format v.draft := by
  have hread : Json.read text = ⟨v.draft, true⟩ := Json.read_eq_iff.mpr ⟨v, h, rfl⟩
  unfold Schema.ofJson
  simp only [hread]
  cases schema.ofFormat Json.format v.draft with
  | error e => rfl
  | ok a => rfl

/-- **A text is accepted exactly if it is a document of a value that stands for the data.** -/
theorem ofJson_eq_ok_iff {α : Type} {schema : Schema α} (h : schema.isKeyed = true) {text : String} {a : α} :
    schema.ofJson text = .ok a ↔
      ∃ v : Json.Value, v.IsDocument text ∧ schema.Denotes Json.format v.draft a := by
  have hexact := Schema.exact Json.lawful_format schema h
  have hresult : schema.ofJson text = .ok a ↔
      schema.ofFormat Json.format (Json.read text).root = .ok a ∧ (Json.read text).isWhole = true := by
    unfold Schema.ofJson
    cases hdata : schema.ofFormat Json.format (Json.read text).root with
    | error e => simp [hdata]
    | ok b =>
        simp only [hdata, provided_eq_ok_iff, Except.ok.injEq]
        exact and_comm
  rw [hresult, hexact]
  constructor
  · rintro ⟨hdenotes, hwhole⟩
    have hread : Json.read text = ⟨(Json.read text).root, true⟩ := by
      rw [← hwhole]
    obtain ⟨v, hdocument, hroot⟩ := Json.read_eq_iff.mp hread
    rw [hroot] at hdenotes
    exact ⟨v, hdocument, hdenotes⟩
  · rintro ⟨v, hdocument, hdenotes⟩
    have hread : Json.read text = ⟨v.draft, true⟩ := Json.read_eq_iff.mpr ⟨v, hdocument, rfl⟩
    rw [hread]
    exact ⟨hdenotes, rfl⟩

end EntityAudit
