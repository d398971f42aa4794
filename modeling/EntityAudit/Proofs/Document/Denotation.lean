import Mathlib.Data.List.Forall2
import Mathlib.Data.List.Nodup
import EntityAudit.Document.Format

/-!
# `EntityAudit.Proofs.Document.Denotation` — which data a value stands for

Reading data out of a value visits its parts in order, carries along what is known of a record and stops at
the first fault.  What it finds is described without any of that: a list stands for the data of its items,
and a record for the data of its fields, each under its key or in its position, or missing and restored.

## Contents

* `provided_eq_ok_iff`, `map_eq_ok_iff`, `bind_eq_ok_iff`, `mapM_eq_ok_iff`, `chosen_eq_ok_iff` —
  results
* `Format.Lawful` — a choice is made by a name
* `Schema.Denotes`, `Fields.Under`, `Fields.InOrder` — which data a value stands for
* `Schema.isKeyed` — the fields of all records have different keys
* `Schema.Exact`, `Fields.Exact` — reading finds exactly that data
* `denotes_via_iff` — data of another type
* `ofItems_iff` — records that are sequences
* `Fields.Holds`, `holds_of_offer`, `exists_offer`, `finish_iff`, `foldlM_offer_iff` — records that are
  tables
* `Schema.exact` — every schema with different keys is exact
* `lookup_eq_some_iff_of_nodup`, `field_iff` — fields with defaults
-/

namespace EntityAudit

/-! ## Results -/

section Results

variable {ε α β : Type}

theorem provided_eq_ok_iff {isWhole : Bool} {a b : α} :
    provided isWhole a = .ok b ↔ isWhole = true ∧ a = b := by
  unfold provided
  cases isWhole <;> simp

theorem map_eq_ok_iff {x : Except ε α} {g : α → β} {b : β} :
    x.map g = .ok b ↔ ∃ a, x = .ok a ∧ g a = b := by
  cases x <;> simp [Except.map]

theorem bind_eq_ok_iff {x : Except ε α} {g : α → Except ε β} {b : β} :
    x.bind g = .ok b ↔ ∃ a, x = .ok a ∧ g a = .ok b := by
  cases x <;> simp [Except.bind]

/-- The items of a list are read one by one. -/
theorem mapM_eq_ok_iff {g : α → Except ε β} {xs : List α} {ys : List β} :
    xs.mapM g = .ok ys ↔ List.Forall₂ (fun x y => g x = .ok y) xs ys := by
  induction xs generalizing ys with
  | nil =>
      rw [List.mapM_nil, List.forall₂_nil_left_iff]
      exact ⟨fun h => (Except.ok.inj h).symm, fun h => congrArg Except.ok h.symm⟩
  | cons x xs ih =>
      have hcons : (x :: xs).mapM g = (g x).bind fun y => (xs.mapM g).bind fun ys => .ok (y :: ys) :=
        List.mapM_cons
      rw [hcons, bind_eq_ok_iff, List.forall₂_cons_left_iff]
      constructor
      · rintro ⟨y, hy, hrest⟩
        obtain ⟨ys', hys, heq⟩ := bind_eq_ok_iff.mp hrest
        exact ⟨y, ys', hy, ih.mp hys, (Except.ok.inj heq).symm⟩
      · rintro ⟨y, ys', hy, hys, rfl⟩
        exact ⟨y, hy, bind_eq_ok_iff.mpr ⟨ys', ih.mpr hys, rfl⟩⟩

/-- A name chooses the value that has it. -/
theorem chosen_eq_ok_iff {values : List α} {nameOf : α → String} (complete : ∀ a, a ∈ values)
    (distinct : ∀ a b, nameOf a = nameOf b → a = b) {name : String} {a : α} :
    chosen values nameOf name = .ok a ↔ nameOf a = name := by
  constructor
  · intro h
    unfold chosen at h
    split at h
    · rename_i b hb
      cases h
      exact beq_iff_eq.mp (List.find?_some (p := fun a => nameOf a == name) hb)
    · cases h
  · rintro rfl
    rw [chosen, valueNamed?_nameOf complete distinct]

end Results

/-! ## Data -/

variable {ν : Type} (f : Format ν)

/-- What a choice makes of a value, it makes of the name that the value chooses. -/
structure Format.Lawful : Prop where
  choice_iff {α : Type} (pick : String → Except DocumentFault α) (v : ν) (a : α) :
    f.choice pick v = .ok a ↔ ∃ name, f.choice .ok v = .ok name ∧ pick name = .ok a

mutual

/-- The value stands for the data. -/
def Schema.Denotes {α : Type} : Schema α → ν → α → Prop
  | .text, v, s => f.view v = .text s
  | .flag, v, b => f.view v = .flag b
  | .path, v, p => f.view v = .null ∧ p = none ∨ ∃ s, f.view v = .text s ∧ p = some ⟨s⟩
  | .choice _ nameOf _ _, v, a => f.choice .ok v = .ok (nameOf a)
  | .list item, v, as => ∃ items, f.view v = .sequence items true ∧ List.Forall₂ item.Denotes items as
  | .record _ fields, v, a =>
    (∃ members, f.view v = .table members true ∧ (members.map Prod.fst).Nodup
        ∧ (∀ key ∈ members.map Prod.fst, key ∈ fields.keys) ∧ fields.Under members a)
      ∨ ∃ items, f.view v = .sequence items true ∧ fields.InOrder items a
  | .via shape into _ _, v, b => ∃ a, shape.Denotes v a ∧ into a = b

/-- Each field stands under its key, or it is missing and restored. -/
def Fields.Under {α σ : Type} : Fields α σ → List (String × ν) → α → Prop
  | .nil, _, () => True
  | .cons key shape presence rest, members, (a, b) =>
    ((∃ v, (key, v) ∈ members ∧ shape.Denotes v a)
        ∨ key ∉ members.map Prod.fst ∧ presence.fallback = some a)
      ∧ rest.Under members b

/-- The fields stand in their order; the last ones may be missing and are restored. -/
def Fields.InOrder {α σ : Type} : Fields α σ → List ν → α → Prop
  | .nil, items, () => items = [] ∨ f.allowsSurplus = true
  | .cons _ _ presence rest, [], (a, b) => presence.fallback = some a ∧ rest.InOrder [] b
  | .cons _ shape _ rest, v :: items, (a, b) => shape.Denotes v a ∧ rest.InOrder items b

end

mutual

/-- Whether the fields of all records in a schema have different keys. -/
def Schema.isKeyed {α : Type} : Schema α → Bool
  | .list item => item.isKeyed
  | .record _ fields => decide fields.keys.Nodup && fields.areKeyed
  | .via shape _ _ _ => shape.isKeyed
  | _ => true

/-- Whether that holds of the shapes of all fields. -/
def Fields.areKeyed {α σ : Type} : Fields α σ → Bool
  | .nil => true
  | .cons _ shape _ rest => shape.isKeyed && rest.areKeyed

end

/-! ## Exactness -/

/-- Reading finds exactly the data that values stand for. -/
def Schema.Exact {α : Type} (schema : Schema α) : Prop :=
  ∀ v a, schema.ofFormat f v = .ok a ↔ schema.Denotes f v a

/-- That holds of the shapes of all fields. -/
def Fields.Exact {α σ : Type} : Fields α σ → Prop
  | .nil => True
  | .cons _ shape _ rest => shape.Exact f ∧ rest.Exact

variable {f}

/-- An exact shape gives a value one meaning. -/
theorem Schema.Exact.unique {α : Type} {schema : Schema α} (h : schema.Exact f) {v : ν} {a b : α}
    (ha : schema.Denotes f v a) (hb : schema.Denotes f v b) : a = b :=
  Except.ok.inj (((h v a).mpr ha).symm.trans ((h v b).mpr hb))

/-- What holds of the empty list of fields, and of a list with one more field, holds of all. -/
theorem Fields.induct {P : {α σ : Type} → Fields α σ → Prop} (hnil : P .nil)
    (hcons : ∀ {α β σ : Type} (key : String) (shape : Schema α) (presence : Presence α)
      (rest : Fields β σ), P rest → P (.cons key shape presence rest))
    {α σ : Type} : ∀ fields : Fields α σ, P fields
  | .nil => hnil
  | .cons key shape presence rest => hcons key shape presence rest (Fields.induct hnil hcons rest)

/-- Data of another type is what its other form is. -/
theorem denotes_via_iff {α β : Type} {shape : Schema α} {into : α → β} {out : β → α}
    (into_out : ∀ b, into (out b) = b) (out_into : ∀ a, out (into a) = a) {v : ν} {b : β} :
    (Schema.via shape into out into_out).Denotes f v b ↔ shape.Denotes f v (out b) := by
  rw [Schema.Denotes]
  constructor
  · rintro ⟨a, ha, rfl⟩
    rw [out_into]
    exact ha
  · exact fun h => ⟨out b, h, into_out b⟩

/-! ## Records that are sequences -/

/-- **The fields of a sequence are found in their order.** -/
theorem ofItems_iff {α σ : Type} {fields : Fields α σ} (h : fields.Exact f) {record : String}
    {total index : Nat} {items : List ν} {isWhole : Bool} {a : α} :
    fields.ofItems f record total index items isWhole = .ok a
      ↔ isWhole = true ∧ fields.InOrder f items a := by
  induction fields using Fields.induct generalizing index items with
  | hnil =>
      rw [Fields.ofItems, provided_eq_ok_iff, Fields.InOrder, Bool.and_eq_true, Bool.or_eq_true,
        List.isEmpty_iff, eq_self, and_true, and_comm]
  | hcons key shape presence rest ih =>
      obtain ⟨hshape, hrest⟩ := h
      cases items with
      | nil =>
          rw [Fields.ofItems, Fields.InOrder]
          cases isWhole with
          | false => simp
          | true =>
              rw [if_pos rfl]
              cases presence.fallback with
              | none => simp
              | some b =>
                  simp only [map_eq_ok_iff, ih hrest, true_and, Option.some.injEq]
                  constructor
                  · rintro ⟨c, hc, rfl⟩
                    exact ⟨rfl, hc⟩
                  · rintro ⟨rfl, hc⟩
                    exact ⟨a.2, hc, rfl⟩
      | cons v items =>
          rw [Fields.ofItems, Fields.InOrder, ← hshape v a.1]
          cases shape.ofFormat f v with
          | error e => simp
          | ok b =>
              simp only [map_eq_ok_iff, ih hrest, Except.ok.injEq]
              constructor
              · rintro ⟨c, ⟨hwhole, hc⟩, rfl⟩
                exact ⟨hwhole, rfl, hc⟩
              · rintro ⟨hwhole, rfl, hc⟩
                exact ⟨a.2, ⟨hwhole, hc⟩, rfl⟩

/-! ## Records that are tables -/

variable (f) in
/-- What is known of the fields once some members were read: the data under its key, or that there is no
such key. -/
def Fields.Holds {α σ : Type} : Fields α σ → List (String × ν) → σ → Prop
  | .nil, _, () => True
  | .cons key shape _ rest, members, (slot, slots) =>
    (match slot with
      | none => key ∉ members.map Prod.fst
      | some a => ∃ v, (key, v) ∈ members ∧ shape.Denotes f v a)
      ∧ rest.Holds members slots

/-- Without members nothing is known. -/
theorem holds_empty {α σ : Type} (fields : Fields α σ) : fields.Holds f [] fields.empty := by
  induction fields using Fields.induct with
  | hnil => exact True.intro
  | hcons key shape presence rest ih => exact ⟨List.not_mem_nil, ih⟩

/-- A member with another key changes nothing. -/
theorem Fields.Holds.append {α σ : Type} {fields : Fields α σ} {members : List (String × ν)} {slots : σ}
    (h : fields.Holds f members slots) {key : String} (hkey : key ∉ fields.keys) (v : ν) :
    fields.Holds f (members ++ [(key, v)]) slots := by
  induction fields using Fields.induct with
  | hnil => exact True.intro
  | hcons own shape presence rest ih =>
      obtain ⟨slot, slots⟩ := slots
      obtain ⟨hslot, hslots⟩ := h
      obtain ⟨hne, hrest⟩ := not_or.mp (List.mem_cons.not.mp hkey)
      refine ⟨?_, ih hslots hrest⟩
      cases slot with
      | none =>
          show own ∉ (members ++ [(key, v)]).map Prod.fst
          rw [List.map_append, List.mem_append, not_or]
          exact ⟨hslot, fun hmem => hne (List.mem_singleton.mp hmem).symm⟩
      | some a =>
          obtain ⟨w, hw, ha⟩ := hslot
          exact ⟨w, List.mem_append_left _ hw, ha⟩

/-- A member belongs to the first field, or it is left to the others. -/
theorem offer_cons {α β σ : Type} {own : String} {shape : Schema α} {presence : Presence α}
    {rest : Fields β σ} {known : List String} {key : String} {v : ν} {slot : Option α} {slots : σ} :
    (Fields.cons own shape presence rest).offer f known key v (slot, slots)
      = if key = own then
          match slot with
          | some _ => .error (.data (.duplicateField key))
          | none => (shape.ofFormat f v).map (fun a => (some a, slots))
        else (rest.offer f known key v slots).map (fun slots => (slot, slots)) := by
  cases slot <;> rw [Fields.offer]

/-- **A member that is taken has a key of its own**, and then it is known. -/
theorem holds_of_offer {α σ : Type} {fields : Fields α σ} (h : fields.Exact f)
    (hkeys : fields.keys.Nodup) {known : List String} {key : String} {v : ν}
    {members : List (String × ν)} {slots slots' : σ} (hholds : fields.Holds f members slots)
    (hoffer : fields.offer f known key v slots = .ok slots') :
    key ∈ fields.keys ∧ key ∉ members.map Prod.fst
      ∧ fields.Holds f (members ++ [(key, v)]) slots' := by
  induction fields using Fields.induct with
  | hnil => cases hoffer
  | hcons own shape presence rest ih =>
      obtain ⟨slot, slots⟩ := slots
      obtain ⟨hslot, hslots⟩ := hholds
      obtain ⟨hown, hkeys⟩ := List.nodup_cons.mp hkeys
      rw [offer_cons] at hoffer
      split at hoffer
      · rename_i heq
        subst heq
        cases slot with
        | some a => cases hoffer
        | none =>
            obtain ⟨a, ha, rfl⟩ := map_eq_ok_iff.mp hoffer
            have hmem : (key, v) ∈ members ++ [(key, v)] := List.mem_append_right _ List.mem_cons_self
            exact ⟨List.mem_cons_self, hslot, ⟨v, hmem, (h.1 v a).mp ha⟩, hslots.append hown v⟩
      · rename_i hne
        obtain ⟨taken, htaken, rfl⟩ := map_eq_ok_iff.mp hoffer
        obtain ⟨hkey, hnew, hholds⟩ := ih h.2 hkeys hslots htaken
        -- The member has another key than the first field, taken alone.
        have hfirst : (Fields.cons own shape presence .nil).Holds f members (slot, ()) :=
          ⟨hslot, True.intro⟩
        have hother : key ∉ (Fields.cons own shape presence .nil).keys := fun hmem =>
          hne (List.mem_singleton.mp hmem)
        exact ⟨List.mem_cons_of_mem own hkey, hnew, (hfirst.append hother v).1, hholds⟩

/-- In a list without a repeated key, a key has one value. -/
theorem value_unique {members : List (String × ν)} (h : (members.map Prod.fst).Nodup) {key : String}
    {v w : ν} (hv : (key, v) ∈ members) (hw : (key, w) ∈ members) : v = w :=
  (Prod.mk.inj (List.inj_on_of_nodup_map h hv hw rfl)).2

/-- **A member of a table that stands for a record is taken**, if its key has not been read before. -/
theorem exists_offer {α σ : Type} {fields : Fields α σ} (h : fields.Exact f) {known : List String}
    {key : String} {v : ν} {all members : List (String × ν)} {slots : σ} {a : α}
    (hall : (all.map Prod.fst).Nodup) (hunder : fields.Under f all a) (hmem : (key, v) ∈ all)
    (hkey : key ∈ fields.keys) (hnew : key ∉ members.map Prod.fst)
    (hholds : fields.Holds f members slots) : ∃ slots', fields.offer f known key v slots = .ok slots' := by
  induction fields using Fields.induct with
  | hnil => exact absurd hkey List.not_mem_nil
  | hcons own shape presence rest ih =>
      obtain ⟨slot, slots⟩ := slots
      obtain ⟨b, c⟩ := a
      obtain ⟨hslot, hslots⟩ := hholds
      obtain ⟨hfield, hrest⟩ := hunder
      rw [offer_cons]
      split
      · rename_i heq
        subst heq
        cases slot with
        | some d =>
            obtain ⟨w, hw, -⟩ := hslot
            exact absurd (List.mem_map_of_mem hw) hnew
        | none =>
            rcases hfield with ⟨w, hw, hb⟩ | ⟨habsent, -⟩
            · rw [value_unique hall hw hmem] at hb
              exact ⟨_, map_eq_ok_iff.mpr ⟨b, (h.1 v b).mpr hb, rfl⟩⟩
            · exact absurd (List.mem_map_of_mem hmem) habsent
      · rename_i hne
        have hkey : key ∈ rest.keys := (List.mem_cons.mp hkey).resolve_left hne
        obtain ⟨slots', hslots'⟩ := ih h.2 hrest hkey hslots
        exact ⟨_, map_eq_ok_iff.mpr ⟨slots', hslots', rfl⟩⟩

/-- **A record is finished** from what is known exactly if its fields stand under their keys. -/
theorem finish_iff {α σ : Type} {fields : Fields α σ} (h : fields.Exact f)
    {members : List (String × ν)} (hmembers : (members.map Prod.fst).Nodup) {slots : σ} {a : α}
    (hholds : fields.Holds f members slots) :
    fields.finish slots = .ok a ↔ fields.Under f members a := by
  induction fields using Fields.induct with
  | hnil => exact ⟨fun _ => True.intro, fun _ => rfl⟩
  | hcons key shape presence rest ih =>
      obtain ⟨slot, slots⟩ := slots
      obtain ⟨b, c⟩ := a
      obtain ⟨hslot, hslots⟩ := hholds
      rw [Fields.Under, Fields.finish, ← ih h.2 hslots]
      cases slot with
      | some d =>
          obtain ⟨v, hv, hd⟩ := hslot
          show (rest.finish slots).map (fun c => (d, c)) = .ok (b, c) ↔ _
          rw [map_eq_ok_iff]
          constructor
          · rintro ⟨c', hc, heq⟩
            obtain ⟨rfl, rfl⟩ := Prod.mk.inj heq
            exact ⟨Or.inl ⟨v, hv, hd⟩, hc⟩
          · rintro ⟨⟨w, hw, hb⟩ | ⟨habsent, -⟩, hc⟩
            · rw [value_unique hmembers hw hv] at hb
              exact ⟨c, hc, by rw [h.1.unique hb hd]⟩
            · exact absurd (List.mem_map_of_mem hv) habsent
      | none =>
          show (match presence.fallback with
            | none => Except.error (DocumentFault.data (.missingField key))
            | some a => (rest.finish slots).map (fun b => (a, b))) = .ok (b, c) ↔ _
          have hfield : ((∃ v, (key, v) ∈ members ∧ shape.Denotes f v b)
              ∨ key ∉ members.map Prod.fst ∧ presence.fallback = some b) ↔ presence.fallback = some b := by
            constructor
            · rintro (⟨v, hv, -⟩ | ⟨-, hfallback⟩)
              · exact absurd (List.mem_map_of_mem hv) hslot
              · exact hfallback
            · exact fun hfallback => Or.inr ⟨hslot, hfallback⟩
          rw [hfield]
          cases presence.fallback with
          | none => simp
          | some d =>
              simp only [map_eq_ok_iff, Option.some.injEq, Prod.mk.injEq]
              constructor
              · rintro ⟨c', hc, rfl, rfl⟩
                exact ⟨rfl, hc⟩
              · rintro ⟨rfl, hc⟩
                exact ⟨c, hc, rfl, rfl⟩

/-- What is known after all members that are left: their keys are fields, each is new, and each is known. -/
theorem holds_of_foldlM {α σ : Type} {fields : Fields α σ} (h : fields.Exact f)
    (hkeys : fields.keys.Nodup) {known : List String} {members : List (String × ν)} {slots slots' : σ}
    (left : List (String × ν)) (hmembers : (members.map Prod.fst).Nodup)
    (hholds : fields.Holds f members slots)
    (hfold : left.foldlM (fun slots m => fields.offer f known m.1 m.2 slots) slots = .ok slots') :
    ((members ++ left).map Prod.fst).Nodup ∧ (∀ key ∈ left.map Prod.fst, key ∈ fields.keys)
      ∧ fields.Holds f (members ++ left) slots' := by
  induction left generalizing members slots with
  | nil =>
      rw [List.append_nil]
      cases hfold
      exact ⟨hmembers, fun _ hkey => absurd hkey List.not_mem_nil, hholds⟩
  | cons m left ih =>
      obtain ⟨next, hnext, hrest⟩ := bind_eq_ok_iff.mp hfold
      obtain ⟨hkey, hnew, hholds⟩ := holds_of_offer h hkeys hholds hnext
      have hnodup : ((members ++ [m]).map Prod.fst).Nodup := by
        rw [List.map_append, List.map_singleton, List.nodup_append]
        refine ⟨hmembers, List.nodup_singleton _, ?_⟩
        rintro k hk k' hk' rfl
        rw [List.mem_singleton.mp hk'] at hk
        exact hnew hk
      obtain ⟨hall, hfields, hend⟩ := ih hnodup hholds hrest
      rw [List.append_assoc, List.singleton_append] at hall hend
      exact ⟨hall, List.forall_mem_cons.mpr ⟨hkey, hfields⟩, hend⟩

/-- All members that are left of a table that stands for a record are taken. -/
theorem exists_foldlM {α σ : Type} {fields : Fields α σ} (h : fields.Exact f) (hkeys : fields.keys.Nodup)
    {known : List String} {members : List (String × ν)} {slots : σ} {a : α} (left : List (String × ν))
    (hall : ((members ++ left).map Prod.fst).Nodup) (hunder : fields.Under f (members ++ left) a)
    (hleft : ∀ key ∈ left.map Prod.fst, key ∈ fields.keys) (hholds : fields.Holds f members slots) :
    ∃ slots', left.foldlM (fun slots m => fields.offer f known m.1 m.2 slots) slots = .ok slots' := by
  induction left generalizing members slots with
  | nil => exact ⟨slots, rfl⟩
  | cons m left ih =>
      obtain ⟨hkey, hleft⟩ := List.forall_mem_cons.mp hleft
      have hmem : m ∈ members ++ m :: left := List.mem_append_right _ List.mem_cons_self
      have hnew : m.1 ∉ members.map Prod.fst := by
        rw [List.map_append, List.nodup_append] at hall
        exact fun hm => hall.2.2 m.1 hm m.1 List.mem_cons_self rfl
      have htaken : ∃ next, fields.offer f known m.1 m.2 slots = .ok next :=
        exists_offer h hall hunder hmem hkey hnew hholds
      obtain ⟨next, hnext⟩ := htaken
      obtain ⟨-, -, hholds⟩ := holds_of_offer h hkeys hholds hnext
      rw [← List.singleton_append, ← List.append_assoc] at hall hunder
      obtain ⟨slots', hslots'⟩ := ih hall hunder hleft hholds
      exact ⟨slots', bind_eq_ok_iff.mpr ⟨next, hnext, hslots'⟩⟩

/-- **A table is read into a record exactly if it has no repeated key and no unknown one**, and each field
stands under its key. -/
theorem foldlM_offer_iff {α σ : Type} {fields : Fields α σ} (h : fields.Exact f)
    (hkeys : fields.keys.Nodup) {known : List String} {members : List (String × ν)} {a : α} :
    (∃ slots, members.foldlM (fun slots m => fields.offer f known m.1 m.2 slots) fields.empty = .ok slots
        ∧ fields.finish slots = .ok a)
      ↔ (members.map Prod.fst).Nodup ∧ (∀ key ∈ members.map Prod.fst, key ∈ fields.keys)
        ∧ fields.Under f members a := by
  have hnone : (([] : List (String × ν)).map Prod.fst).Nodup := List.nodup_nil
  constructor
  · rintro ⟨slots, hfold, hfinish⟩
    obtain ⟨hnodup, hfields, hholds⟩ := holds_of_foldlM h hkeys members hnone (holds_empty fields) hfold
    exact ⟨hnodup, hfields, (finish_iff h hnodup hholds).mp hfinish⟩
  · rintro ⟨hnodup, hfields, hunder⟩
    have hall : (([] ++ members).map Prod.fst).Nodup := hnodup
    obtain ⟨slots, hfold⟩ := exists_foldlM h hkeys members hall hunder hfields (holds_empty fields)
    obtain ⟨-, -, hholds⟩ := holds_of_foldlM h hkeys members hnone (holds_empty fields) hfold
    exact ⟨slots, hfold, (finish_iff h hnodup hholds).mpr hunder⟩

/-! ## Schemas -/

/-- A schema of a record with exact fields that have different keys is exact. -/
theorem exact_record {α σ : Type} {fields : Fields α σ} (h : fields.Exact f) (hkeys : fields.keys.Nodup)
    (name : String) : (Schema.record name fields).Exact f := by
  intro v a
  rw [Schema.ofFormat, Schema.Denotes]
  cases hview : f.view v with
  | sequence items isWhole =>
      show fields.ofItems f name fields.keys.length 0 items isWhole = .ok a ↔ _
      rw [ofItems_iff h]
      constructor
      · rintro ⟨rfl, hitems⟩
        exact Or.inr ⟨items, rfl, hitems⟩
      · rintro (⟨members, htable, -⟩ | ⟨items', hsequence, hitems⟩)
        · cases htable
        · cases hsequence
          exact ⟨rfl, hitems⟩
  | table members isWhole =>
      have htable : (∃ ms, View.table members isWhole = .table ms true ∧ (ms.map Prod.fst).Nodup
            ∧ (∀ key ∈ ms.map Prod.fst, key ∈ fields.keys) ∧ fields.Under f ms a)
          ↔ isWhole = true ∧ ∃ slots,
            members.foldlM (fun slots m => fields.offer f fields.keys m.1 m.2 slots) fields.empty
              = .ok slots ∧ fields.finish slots = .ok a := by
        rw [foldlM_offer_iff h hkeys]
        constructor
        · rintro ⟨ms, heq, hms⟩
          cases heq
          exact ⟨rfl, hms⟩
        · rintro ⟨rfl, hms⟩
          exact ⟨members, rfl, hms⟩
      have hsequence : ¬ ∃ items, View.table members isWhole = .sequence items true
          ∧ fields.InOrder f items a := by
        rintro ⟨items, heq, -⟩
        cases heq
      rw [htable, or_iff_left hsequence]
      cases hfold : members.foldlM (fun slots m => fields.offer f fields.keys m.1 m.2 slots)
          fields.empty with
      | error e => simp [hfold]
      | ok slots =>
          simp only [hfold]
          cases isWhole <;> simp
  | null => simp
  | flag => simp
  | text => simp
  | other => simp

/-- A schema of lists of an exact schema is exact. -/
theorem exact_list {α : Type} {item : Schema α} (h : item.Exact f) : (Schema.list item).Exact f := by
  intro v as
  have hitems : ∀ items : List ν, items.mapM (fun v => item.ofFormat f v) = .ok as
      ↔ List.Forall₂ (item.Denotes f) items as := by
    intro items
    rw [mapM_eq_ok_iff]
    exact ⟨fun hall => hall.imp fun v a => (h v a).mp, fun hall => hall.imp fun v a => (h v a).mpr⟩
  rw [Schema.ofFormat, Schema.Denotes]
  cases f.view v with
  | sequence items isWhole =>
      constructor
      · intro hread
        cases hmap : items.mapM (fun v => item.ofFormat f v) with
        | error e => simp [hmap] at hread
        | ok bs =>
            simp only [hmap, provided_eq_ok_iff] at hread
            obtain ⟨rfl, rfl⟩ := hread
            exact ⟨items, rfl, (hitems items).mp hmap⟩
      · rintro ⟨items', heq, hall⟩
        cases heq
        simp only [(hitems items).mpr hall]
        rfl
  | _ => simp

mutual

/-- **Reading finds exactly the data that a value stands for**, in every format whose choices are made by
names and for every schema whose records have different keys. -/
theorem Schema.exact (hf : f.Lawful) {α : Type} : (schema : Schema α) → schema.isKeyed = true →
    schema.Exact f
  | .text, _ => by
      intro v a
      rw [Schema.ofFormat, Schema.Denotes]
      cases f.view v <;> simp
  | .flag, _ => by
      intro v a
      rw [Schema.ofFormat, Schema.Denotes]
      cases f.view v <;> simp
  | .path, _ => by
      intro v a
      rw [Schema.ofFormat, Schema.Denotes]
      cases f.view v <;> simp [eq_comm]
  | .choice values nameOf complete distinct, _ => by
      intro v a
      rw [Schema.ofFormat, Schema.Denotes, hf.choice_iff]
      constructor
      · rintro ⟨name, hname, hchosen⟩
        rw [(chosen_eq_ok_iff complete distinct).mp hchosen]
        exact hname
      · intro hname
        exact ⟨nameOf a, hname, (chosen_eq_ok_iff complete distinct).mpr rfl⟩
  | .list item, h => exact_list (Schema.exact hf item h)
  | .record name fields, h => by
      obtain ⟨hkeys, hfields⟩ := Bool.and_eq_true_iff.mp h
      exact exact_record (Fields.exact hf fields hfields) (of_decide_eq_true hkeys) name
  | .via shape into _ _, h => by
      intro v b
      rw [Schema.ofFormat, Schema.Denotes, map_eq_ok_iff]
      exact exists_congr fun a => and_congr_left' (Schema.exact hf shape h v a)

/-- The shapes of all fields are exact. -/
theorem Fields.exact (hf : f.Lawful) {α σ : Type} : (fields : Fields α σ) → fields.areKeyed = true →
    fields.Exact f
  | .nil, _ => True.intro
  | .cons _ shape _ rest, h => by
      obtain ⟨hshape, hrest⟩ := Bool.and_eq_true_iff.mp h
      exact ⟨Schema.exact hf shape hshape, Fields.exact hf rest hrest⟩

end

/-! ## Fields with defaults -/

section Defaults

variable {members : List (String × ν)} {key : String}

theorem lookup_eq_some_iff_of_nodup (h : (members.map Prod.fst).Nodup) {v : ν} :
    members.lookup key = some v ↔ (key, v) ∈ members := by
  induction members with
  | nil => simp
  | cons m rest ih =>
      obtain ⟨k, w⟩ := m
      obtain ⟨hk, hrest⟩ := List.nodup_cons.mp h
      by_cases heq : key = k
      · subst heq
        have habsent : (key, v) ∉ rest := fun hmem => hk (List.mem_map.mpr ⟨(key, v), hmem, rfl⟩)
        simp [habsent, @eq_comm ν v w]
      · have hb : (key == k) = false := by simp [heq]
        simp [List.lookup_cons, hb, heq, ih hrest]

theorem lookup_eq_none_iff_notMem : members.lookup key = none ↔ key ∉ members.map Prod.fst := by
  rw [List.lookup_eq_none_iff, List.mem_map]
  constructor
  · rintro h ⟨m, hm, rfl⟩
    simpa using h m hm
  · intro h m hm
    simpa using fun heq : key = m.1 => h ⟨m, hm, heq.symm⟩

/-- **A field with a default** is of its kind wherever it is given, and is the default where it is not. -/
theorem field_iff {α : Type} {shape : Schema α} {read : ν → Option α}
    (hread : ∀ v a, shape.Denotes f v a ↔ read v = some a) (hmembers : (members.map Prod.fst).Nodup)
    {a default : α} :
    ((∃ v, (key, v) ∈ members ∧ shape.Denotes f v a)
        ∨ key ∉ members.map Prod.fst ∧ some default = some a)
      ↔ (∀ v, (key, v) ∈ members → (read v).isSome = true)
        ∧ ((members.lookup key).bind read).getD default = a := by
  simp only [hread, ← lookup_eq_some_iff_of_nodup hmembers, ← lookup_eq_none_iff_notMem]
  cases members.lookup key with
  | none => simp
  | some v => cases hv : read v <;> simp [hv]

end Defaults

end EntityAudit
