import EntityAudit.Document.Model
import EntityAudit.Proofs.Document.Json.Documents

/-!
# `EntityAudit.Proofs.Document.Json.RoundTrip` — data that is written is read again

The text of a value without numbers is one of its documents: no string loses a character to its escapes.
The value that stands for data also denotes it: what is not written of a record is restored.  Together,
whatever is written as JSON is read as the same data.

## Contents

* `charSpelled_escape`, `textSpelled_escapes` — written strings
* `Value.Written`, `written_array`, `written_object` — values whose text is a document
* `Schema.written_toValue` — the text of data
* `Schema.Restores`, `Fields.Restores`, `under_toMembers` — the values that stand for data denote it
* `ofJson_toJson` — data that is written is read again
* `Schema.RoundTrips`, `model_roundTrips` — everything in manifests and settings
-/

namespace EntityAudit

namespace Json

/-! ## Strings -/

/-- The four digits of a control character. -/
theorem numberOf?_control : ∀ n ∈ List.range 0x20,
    numberOf? 16 ['0', '0', hexDigit (n / 16), hexDigit (n % 16)] = some n := by
  decide +kernel

/-- **A character is spelled** by how it is written between quotes. -/
theorem charSpelled_escape (c : Char) : CharSpelled (escape c) c := by
  unfold escape
  -- Seven characters have an escape of their own.
  iterate 7
    split
    · rename_i hc
      rw [hc]
      exact .short rfl
  split
  · rename_i hcontrol
    exact .unit (numberOf?_control c.toNat (List.mem_range.mpr hcontrol))
  · rename_i hquote hbackslash _ _ _ _ _ hcontrol
    exact .plain hquote hbackslash (Nat.le_of_not_lt hcontrol)

theorem textSpelled_escapes (text : List Char) : TextSpelled (text.flatMap escape) text := by
  induction text with
  | nil => exact .nil
  | cons c text ih =>
      rw [List.flatMap_cons]
      exact .cons (charSpelled_escape c) ih

theorem scalarSpelled_quote (s : String) : ScalarSpelled (quote s) (.text s) :=
  .text (textSpelled_escapes s.toList)

/-! ## Values -/

/-- The text of the value is a document of it. -/
def Value.Written (v : Value) : Prop := Spaced v.tokens v.chars

theorem itemChars_eq_map (items : List Value) : itemChars items = items.map Value.chars := by
  induction items with
  | nil => rfl
  | cons item rest ih => rw [itemChars, ih, List.map_cons]

theorem memberChars_eq_map (members : List (String × Value)) :
    memberChars members = members.map fun m => quote m.1 ++ ':' :: m.2.chars := by
  induction members with
  | nil => rfl
  | cons m rest ih => rw [memberChars, ih, List.map_cons]

/-- Texts with commas between them spell their tokens with commas between them. -/
theorem spaced_commaSeparated {α : Type} {tokensOf : α → List Token} {charsOf : α → List Char} {xs : List α}
    (h : ∀ x ∈ xs, Spaced (tokensOf x) (charsOf x)) :
    Spaced ([Token.comma].intercalate (xs.map tokensOf)) (commaSeparated (xs.map charsOf)) := by
  induction xs with
  | nil => exact .nil
  | cons x xs ih =>
      obtain ⟨hx, hxs⟩ := List.forall_mem_cons.mp h
      cases xs with
      | nil =>
          rw [List.map_singleton, List.intercalate_singleton]
          exact hx
      | cons y ys =>
          rw [List.map_cons, List.map_cons, List.intercalate_cons_cons, List.append_assoc]
          exact hx.append (.token .comma (ih hxs))

theorem written_text (s : String) : (Value.scalar (.text s)).Written :=
  .single (.scalar (scalarSpelled_quote s))

theorem written_boolean (b : Bool) : (Value.scalar (.boolean b)).Written := by
  cases b with
  | true => exact .single (.scalar .true)
  | false => exact .single (.scalar .false)

theorem written_null : (Value.scalar .null).Written := .single (.scalar .null)

theorem written_array {items : List Value} (h : ∀ v ∈ items, v.Written) : (Value.array items).Written := by
  unfold Value.Written
  rw [Value.tokens, Value.chars, itemTokens_eq_map, itemChars_eq_map]
  exact (Spaced.token .openArray (spaced_commaSeparated h)).append (.single .closeArray)

theorem written_object {members : List (String × Value)} (h : ∀ m ∈ members, m.2.Written) :
    (Value.object members).Written := by
  unfold Value.Written
  rw [Value.tokens, Value.chars, memberTokens_eq_map, memberChars_eq_map]
  refine (Spaced.token .openObject (spaced_commaSeparated fun m hm => ?_)).append (.single .closeObject)
  exact .token (.scalar (scalarSpelled_quote m.1)) (.token .colon (h m hm))

/-- The text of such a value is a document. -/
theorem Value.Written.isDocument {v : Value} (h : v.Written) : v.IsDocument v.render := by
  unfold Value.IsDocument Value.render
  rw [String.toList_ofList]
  exact h

end Json

open Json (Value draftOfMember)

mutual

/-- **The text of data is a document**: strings, flags and nothing else are written. -/
theorem Schema.written_toValue {α : Type} : (schema : Schema α) → (a : α) → (schema.toValue a).Written
  | .text, s => Json.written_text s
  | .flag, b => Json.written_boolean b
  | .path, none => Json.written_null
  | .path, some p => Json.written_text p.text
  | .choice _ nameOf _ _, a => Json.written_text (nameOf a)
  | .list item, as => by
      rw [Schema.toValue]
      apply Json.written_array
      intro v hv
      obtain ⟨a, -, rfl⟩ := List.mem_map.mp hv
      exact Schema.written_toValue item a
  | .record _ fields, a => Json.written_object (Fields.written_toMembers fields a)
  | .via shape _ out _, b => Schema.written_toValue shape (out b)

/-- The values of all members are written. -/
theorem Fields.written_toMembers {α σ : Type} : (fields : Fields α σ) → (a : α) →
    ∀ m ∈ fields.toMembers a, m.2.Written
  | .nil, (), m, hm => absurd hm List.not_mem_nil
  | .cons key shape presence rest, (a, b), m, hm => by
      rw [Fields.toMembers] at hm
      split at hm
      · exact Fields.written_toMembers rest b m hm
      · rcases List.mem_cons.mp hm with rfl | hrest
        · exact Schema.written_toValue shape a
        · exact Fields.written_toMembers rest b m hrest

end

/-! ## Records -/

/-- The value that stands for data denotes it. -/
def Schema.Restores {α : Type} (schema : Schema α) : Prop :=
  ∀ a, schema.Denotes Json.format (schema.toValue a).draft a

/-- That holds of the shapes of all fields. -/
def Fields.Restores {α σ : Type} : Fields α σ → Prop
  | .nil => True
  | .cons _ shape _ rest => shape.Restores ∧ rest.Restores

/-- Members are written in the order of the fields, and some are left out. -/
theorem keys_toMembers_sublist {α σ : Type} (fields : Fields α σ) (a : α) :
    ((fields.toMembers a).map Prod.fst).Sublist fields.keys := by
  induction fields using Fields.induct with
  | hnil => exact List.Sublist.refl _
  | hcons key shape presence rest ih =>
      obtain ⟨b, c⟩ := a
      rw [Fields.toMembers, Fields.keys]
      split
      · exact (ih c).cons key
      · exact (ih c).cons_cons key

/-- A member in front that belongs to no field changes nothing. -/
theorem Fields.Under.cons {ν : Type} {f : Format ν} {α σ : Type} {fields : Fields α σ}
    {members : List (String × ν)} {a : α} (h : fields.Under f members a) {key : String}
    (hkey : key ∉ fields.keys) (v : ν) : fields.Under f ((key, v) :: members) a := by
  induction fields using Fields.induct with
  | hnil => exact True.intro
  | hcons own shape presence rest ih =>
      obtain ⟨b, c⟩ := a
      obtain ⟨hfield, hrest⟩ := h
      obtain ⟨hne, hkey⟩ := not_or.mp (List.mem_cons.not.mp hkey)
      refine ⟨?_, ih hrest hkey⟩
      rcases hfield with ⟨w, hw, hb⟩ | ⟨habsent, hfallback⟩
      · exact Or.inl ⟨w, List.mem_cons_of_mem _ hw, hb⟩
      · refine Or.inr ⟨?_, hfallback⟩
        rw [List.map_cons, List.mem_cons, not_or]
        exact ⟨fun heq => hne heq.symm, habsent⟩

/-- **The members that stand for a record have its fields under their keys**; what is left out is
restored. -/
theorem under_toMembers {α σ : Type} {fields : Fields α σ} (h : fields.Restores) (hkeys : fields.keys.Nodup)
    (a : α) : fields.Under Json.format ((fields.toMembers a).map draftOfMember) a := by
  induction fields using Fields.induct with
  | hnil => exact True.intro
  | hcons key shape presence rest ih =>
      obtain ⟨b, c⟩ := a
      obtain ⟨hshape, hrest⟩ := h
      obtain ⟨hkey, hkeys⟩ := List.nodup_cons.mp hkeys
      rw [Fields.toMembers]
      split
      · rename_i homits
        refine ⟨Or.inr ⟨?_, presence.fallback_of_omits b homits⟩, ih hrest hkeys c⟩
        rw [Json.keys_map_draftOfMember]
        exact fun hmem => hkey ((keys_toMembers_sublist rest c).mem hmem)
      · rw [List.map_cons]
        exact ⟨Or.inl ⟨_, List.mem_cons_self, hshape b⟩, (ih hrest hkeys c).cons hkey _⟩

theorem restores_record {α σ : Type} {fields : Fields α σ} (h : fields.Restores)
    (hkeys : fields.keys.Nodup) (name : String) : (Schema.record name fields).Restores := by
  intro a
  rw [Schema.toValue, Schema.Denotes]
  have hsublist := keys_toMembers_sublist fields a
  refine Or.inl ⟨_, Json.view_draft_table_iff.mpr ⟨_, rfl, rfl, rfl⟩, ?_, ?_, under_toMembers h hkeys a⟩
  · rw [Json.keys_map_draftOfMember]
    exact hsublist.nodup hkeys
  · rw [Json.keys_map_draftOfMember]
    exact fun key hkey => hsublist.mem hkey

theorem restores_list {α : Type} {item : Schema α} (h : item.Restores) : (Schema.list item).Restores := by
  intro as
  rw [Schema.toValue, Schema.Denotes]
  refine ⟨_, Json.view_draft_sequence_iff.mpr ⟨_, rfl, rfl, rfl⟩, ?_⟩
  rw [List.map_map, List.forall₂_map_left_iff, List.forall₂_same]
  exact fun a _ => h a

mutual

/-- **The value that stands for data denotes it**, for every schema whose records have different keys. -/
theorem Schema.restores {α : Type} : (schema : Schema α) → schema.isKeyed = true → schema.Restores
  | .text, _ => fun _ => rfl
  | .flag, _ => fun _ => rfl
  | .path, _ => by
      intro p
      cases p with
      | none => exact Or.inl ⟨rfl, rfl⟩
      | some p => exact Or.inr ⟨p.text, rfl, rfl⟩
  | .choice _ _ _ _, _ => fun _ => rfl
  | .list item, h => restores_list (Schema.restores item h)
  | .record name fields, h => by
      obtain ⟨hkeys, hfields⟩ := Bool.and_eq_true_iff.mp h
      exact restores_record (Fields.restores fields hfields) (of_decide_eq_true hkeys) name
  | .via shape _ out into_out, h => fun b => ⟨out b, Schema.restores shape h (out b), into_out b⟩

/-- That holds of the shapes of all fields. -/
theorem Fields.restores {α σ : Type} : (fields : Fields α σ) → fields.areKeyed = true → fields.Restores
  | .nil, _ => True.intro
  | .cons _ shape _ rest, h => by
      obtain ⟨hshape, hrest⟩ := Bool.and_eq_true_iff.mp h
      exact ⟨Schema.restores shape hshape, Fields.restores rest hrest⟩

end

/-! ## Data that is written and read -/

/-- **Data that is written is read again**, for every schema whose records have different keys. -/
theorem ofJson_toJson {α : Type} {schema : Schema α} (h : schema.isKeyed = true) (a : α) :
    schema.ofJson (schema.toJson a) = .ok a :=
  (ofJson_eq_ok_iff h).mpr
    ⟨schema.toValue a, (Schema.written_toValue schema a).isDocument, Schema.restores schema h a⟩

/-- Whatever is written is read again. -/
def Schema.RoundTrips {α : Type} (schema : Schema α) : Prop :=
  ∀ a, schema.ofJson (schema.toJson a) = .ok a

/-- **Everything in manifests and settings is read as it was written.** -/
theorem model_roundTrips :
    Manifest.schema.RoundTrips ∧ DomainType.schema.RoundTrips ∧ Method.schema.RoundTrips
      ∧ TypeRef.schema.RoundTrips ∧ Marker.schema.RoundTrips ∧ ValueType.schema.RoundTrips
      ∧ Config.schema.RoundTrips ∧ GeneratorConfig.schema.RoundTrips ∧ Naming.schema.RoundTrips := by
  refine ⟨?_, ?_, ?_, ?_, ?_, ?_, ?_, ?_, ?_⟩
  all_goals exact ofJson_toJson (by decide)

end EntityAudit
