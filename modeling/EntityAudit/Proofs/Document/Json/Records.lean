import EntityAudit.Proofs.Document.Json.Documents

/-!
# `EntityAudit.Proofs.Document.Json.Records` — records as objects and as arrays

A record is described by a rule for each of its fields: the key, the values that the field may have, and
whether it may be missing.  A value is such a record if it is an object with those keys, or an array of the
fields in their order.  This is what the schema of a record says about JSON values.

## Contents

* `FieldRule`, `IsRecord` — rules of fields, and records of them
* `Fields.rules` — the rules of the fields of a schema
* `denotes_text_iff`, `denotes_choice_iff`, `denotes_list_iff` — values for texts, choices and lists
* `under_iff`, `inOrder_iff`, `denotes_record_iff` — values for records
-/

namespace EntityAudit

namespace Json

/-! ## Rules -/

/-- What holds of a field of a record: its key, which values it may have, and whether it may be missing. -/
structure FieldRule where
  key : String
  takes : Value → Prop
  mayMiss : Prop

/-- The value is a record: an object with no unknown and no repeated key, or an array of the fields in
their order without any other item.  What is missing is a field that may be, in an array at its end. -/
inductive IsRecord (rules : List FieldRule) : Value → Prop where
  | object {members : List (String × Value)} (hdistinct : (members.map Prod.fst).Nodup)
      (hknown : ∀ key ∈ members.map Prod.fst, key ∈ rules.map FieldRule.key)
      (hfields : ∀ r ∈ rules, (∃ v, (r.key, v) ∈ members ∧ r.takes v)
        ∨ r.key ∉ members.map Prod.fst ∧ r.mayMiss) : IsRecord rules (.object members)
  | array {given missing : List FieldRule} {items : List Value} (hrules : rules = given ++ missing)
      (hgiven : List.Forall₂ (fun r v => r.takes v) given items) (hmissing : ∀ r ∈ missing, r.mayMiss) :
      IsRecord rules (.array items)

end Json

open Json (Value FieldRule IsRecord draftOfMember)

/-- The rules of the fields of a schema, for the data `a`. -/
def Fields.rules {α σ : Type} : Fields α σ → α → List FieldRule
  | .nil, () => []
  | .cons key shape presence rest, (a, b) =>
    ⟨key, fun v => shape.Denotes Json.format v.draft a, presence.fallback = some a⟩ :: rest.rules b

/-! ## Values -/

theorem denotes_text_iff {v : Value} {s : String} :
    Schema.text.Denotes Json.format v.draft s ↔ v = .scalar (.text s) := by
  rw [Schema.Denotes]
  exact Json.view_draft_text_iff

theorem denotes_choice_iff {α : Type} {values : List α} {nameOf : α → String} (complete : ∀ a, a ∈ values)
    (distinct : ∀ a b, nameOf a = nameOf b → a = b) {v : Value} {a : α} :
    (Schema.choice values nameOf complete distinct).Denotes Json.format v.draft a
      ↔ v = .scalar (.text (nameOf a)) ∨ v = .object [(nameOf a, .scalar .null)] := by
  rw [Schema.Denotes]
  exact Json.choice_draft_iff

theorem denotes_list_iff {α : Type} {item : Schema α} {v : Value} {as : List α} :
    (Schema.list item).Denotes Json.format v.draft as
      ↔ ∃ items, v = .array items
        ∧ List.Forall₂ (fun v a => item.Denotes Json.format v.draft a) items as := by
  rw [Schema.Denotes]
  constructor
  · rintro ⟨drafts, hview, hall⟩
    obtain ⟨items, rfl, rfl, -⟩ := Json.view_draft_sequence_iff.mp hview
    exact ⟨items, rfl, List.forall₂_map_left_iff.mp hall⟩
  · rintro ⟨items, rfl, hall⟩
    exact ⟨_, Json.view_draft_sequence_iff.mpr ⟨items, rfl, rfl, rfl⟩, List.forall₂_map_left_iff.mpr hall⟩

/-! ## Records -/

theorem keys_rules {α σ : Type} (fields : Fields α σ) (a : α) :
    (fields.rules a).map FieldRule.key = fields.keys := by
  induction fields using Fields.induct with
  | hnil => rfl
  | hcons key shape presence rest ih =>
      obtain ⟨b, c⟩ := a
      rw [Fields.rules, Fields.keys, List.map_cons, ih]

/-- The fields stand under their keys in an object exactly as their rules say. -/
theorem under_iff {α σ : Type} {fields : Fields α σ} {members : List (String × Value)} {a : α} :
    fields.Under Json.format (members.map draftOfMember) a
      ↔ ∀ r ∈ fields.rules a, (∃ v, (r.key, v) ∈ members ∧ r.takes v)
        ∨ r.key ∉ members.map Prod.fst ∧ r.mayMiss := by
  induction fields using Fields.induct with
  | hnil => exact ⟨fun _ _ hr => absurd hr List.not_mem_nil, fun _ => True.intro⟩
  | hcons key shape presence rest ih =>
      obtain ⟨b, c⟩ := a
      have hmember : (∃ d, (key, d) ∈ members.map draftOfMember ∧ shape.Denotes Json.format d b)
          ↔ ∃ v, (key, v) ∈ members ∧ shape.Denotes Json.format v.draft b := by
        constructor
        · rintro ⟨d, hd, hb⟩
          obtain ⟨⟨k, v⟩, hv, heq⟩ := List.mem_map.mp hd
          cases heq
          exact ⟨v, hv, hb⟩
        · rintro ⟨v, hv, hb⟩
          exact ⟨v.draft, List.mem_map.mpr ⟨(key, v), hv, rfl⟩, hb⟩
      rw [Fields.Under, Fields.rules, List.forall_mem_cons, ih, hmember, Json.keys_map_draftOfMember]

/-- The fields stand in an array in their order exactly as their rules say. -/
theorem inOrder_iff {α σ : Type} {fields : Fields α σ} {items : List Value} {a : α} :
    fields.InOrder Json.format (items.map Value.draft) a
      ↔ ∃ given missing, fields.rules a = given ++ missing
        ∧ List.Forall₂ (fun r v => r.takes v) given items ∧ ∀ r ∈ missing, r.mayMiss := by
  induction fields using Fields.induct generalizing items with
  | hnil =>
      rw [Fields.InOrder, Fields.rules, List.map_eq_nil_iff]
      constructor
      · rintro (rfl | hsurplus)
        · exact ⟨[], [], rfl, .nil, fun _ hr => absurd hr List.not_mem_nil⟩
        · exact absurd hsurplus Bool.false_ne_true
      · rintro ⟨given, missing, hrules, hgiven, -⟩
        obtain ⟨rfl, -⟩ := List.append_eq_nil_iff.mp hrules.symm
        cases hgiven
        exact Or.inl rfl
  | hcons key shape presence rest ih =>
      obtain ⟨b, c⟩ := a
      cases items with
      | nil =>
          have hrest : rest.InOrder Json.format (([] : List Value).map Value.draft) c
              ↔ ∃ given missing, rest.rules c = given ++ missing
                ∧ List.Forall₂ (fun r v => r.takes v) given [] ∧ ∀ r ∈ missing, r.mayMiss :=
            ih
          rw [List.map_nil] at hrest
          rw [List.map_nil, Fields.InOrder, Fields.rules, hrest]
          -- Without items all fields are missing.
          constructor
          · rintro ⟨hfallback, given, missing, hrules, hgiven, hmissing⟩
            cases hgiven
            refine ⟨[], _, rfl, .nil, List.forall_mem_cons.mpr ⟨hfallback, ?_⟩⟩
            rw [hrules]
            exact hmissing
          · rintro ⟨given, missing, hrules, hgiven, hmissing⟩
            cases hgiven
            rw [List.nil_append] at hrules
            rw [← hrules] at hmissing
            obtain ⟨hfallback, hmissing⟩ := List.forall_mem_cons.mp hmissing
            exact ⟨hfallback, [], _, rfl, .nil, hmissing⟩
      | cons v items =>
          rw [List.map_cons, Fields.InOrder, Fields.rules, ih]
          constructor
          · rintro ⟨hv, given, missing, hrules, hgiven, hmissing⟩
            rw [hrules]
            refine ⟨_ :: given, missing, rfl, ?_, hmissing⟩
            exact .cons hv hgiven
          · rintro ⟨given, missing, hrules, hgiven, hmissing⟩
            cases hgiven with
            | cons hv hgiven =>
                obtain ⟨rfl, hrest⟩ := List.cons.inj hrules
                exact ⟨hv, _, missing, hrest, hgiven, hmissing⟩

/-- **A value stands for a record exactly if it is one by the rules of its fields.** -/
theorem denotes_record_iff {α σ : Type} {name : String} {fields : Fields α σ} {v : Value} {a : α} :
    (Schema.record name fields).Denotes Json.format v.draft a ↔ IsRecord (fields.rules a) v := by
  rw [Schema.Denotes]
  constructor
  · rintro (⟨drafts, hview, hdistinct, hknown, hunder⟩ | ⟨drafts, hview, horder⟩)
    · obtain ⟨members, rfl, rfl, -⟩ := Json.view_draft_table_iff.mp hview
      rw [Json.keys_map_draftOfMember] at hdistinct hknown
      refine .object hdistinct ?_ (under_iff.mp hunder)
      rw [keys_rules]
      exact hknown
    · obtain ⟨items, rfl, rfl, -⟩ := Json.view_draft_sequence_iff.mp hview
      obtain ⟨given, missing, hrules, hgiven, hmissing⟩ := inOrder_iff.mp horder
      exact .array hrules hgiven hmissing
  · intro h
    cases h with
    | @object members hdistinct hknown hfields =>
        rw [keys_rules] at hknown
        refine Or.inl ⟨_, Json.view_draft_table_iff.mpr ⟨members, rfl, rfl, rfl⟩, ?_, ?_,
          under_iff.mpr hfields⟩
        · rw [Json.keys_map_draftOfMember]
          exact hdistinct
        · rw [Json.keys_map_draftOfMember]
          exact hknown
    | @array given missing items hrules hgiven hmissing =>
        exact Or.inr ⟨_, Json.view_draft_sequence_iff.mpr ⟨items, rfl, rfl, rfl⟩,
          inOrder_iff.mpr ⟨given, missing, hrules, hgiven, hmissing⟩⟩

end EntityAudit
