import EntityAudit.Volume.Basic

/-!
# `EntityAudit.Proofs.Volume.Tree` — volumes that are trees, and how they grow

A volume is a *tree* if everything in it lies in a directory.  Writing sources only adds to a tree: a
directory stays a directory, a file stays a file, and what is new lies in a directory that was there.

## Contents

* `Place.descend` — the place to which steps lead that go down
* `Volume.IsTree`, `IsTree.of_change` — trees, and changes that keep them
* `Volume.Extends` — a volume that has grown
* `Volume.Contains` — a volume that has grown and kept all its entries
-/

namespace EntityAudit

/-! ## Places -/

namespace Place

theorem below_ne_top (place : Place) (name : String) : place.below name ≠ .top := by
  intro h
  exact absurd (congrArg Place.names h) (List.cons_ne_nil name place.names)

theorem below_inj {p q : Place} {name other : String} (h : p.below name = q.below other) :
    p = q ∧ name = other := by
  obtain ⟨hname, hnames⟩ := List.cons.inj (congrArg Place.names h)
  exact ⟨ext_names hnames, hname⟩

theorem below_ne_self (place : Place) (name : String) : place.below name ≠ place := by
  intro h
  have hdepth : place.depth + 1 = place.depth := congrArg Place.depth h
  omega

/-- The place to which steps lead that go down or stay in place. -/
def descend (place : Place) : List String → Place
  | [] => place
  | step :: rest => descend (if step = "." then place else place.below step) rest

theorem descend_append (place : Place) (first second : List String) :
    place.descend (first ++ second) = (place.descend first).descend second := by
  induction first generalizing place with
  | nil => rfl
  | cons step rest ih => exact ih _

/-- Steps that stay in place make no difference. -/
theorem descend_filter (place : Place) (steps : List String) :
    place.descend (steps.filter (· ≠ ".")) = place.descend steps := by
  induction steps generalizing place with
  | nil => rfl
  | cons step rest ih =>
      by_cases hdot : step = "."
      · rw [hdot, List.filter_cons_of_neg (by decide), ih, descend, if_pos rfl]
      · have hkept : (step :: rest).filter (· ≠ ".") = step :: rest.filter (· ≠ ".") :=
          List.filter_cons_of_pos (decide_eq_true hdot)
        rw [hkept, descend, descend, ih]

/-- The names of a place to which steps lead that go down. -/
theorem names_descend (place : Place) {steps : List String} (h : ∀ step ∈ steps, step ≠ ".") :
    (place.descend steps).names = steps.reverse ++ place.names := by
  induction steps generalizing place with
  | nil => rfl
  | cons step rest ih =>
      obtain ⟨hstep, hrest⟩ := List.forall_mem_cons.mp h
      rw [descend, if_neg hstep, ih _ hrest, List.reverse_cons, List.append_assoc]
      rfl

/-- Different steps that go down lead to different places. -/
theorem descend_inj (place : Place) {steps others : List String} (hsteps : ∀ step ∈ steps, step ≠ ".")
    (hothers : ∀ step ∈ others, step ≠ ".") (h : place.descend steps = place.descend others) :
    steps = others := by
  have hnames := congrArg Place.names h
  rw [names_descend place hsteps, names_descend place hothers] at hnames
  exact List.reverse_inj.mp (List.append_cancel_right hnames)

/-- Steps that go down lead below. -/
theorem isWithin_descend (place : Place) {steps : List String} (h : ∀ step ∈ steps, step ≠ ".") :
    (place.descend steps).isWithin place = true := by
  rw [isWithin, List.isSuffixOf_iff_suffix, names_descend place h]
  exact List.suffix_append _ _

theorem isWithin_refl (place : Place) : place.isWithin place = true :=
  List.isSuffixOf_iff_suffix.mpr (List.suffix_refl _)

/-- What lies below a place within another one lies within that one. -/
theorem isWithin_below {place upper : Place} (h : upper.isWithin place = true) (name : String) :
    (upper.below name).isWithin place = true := by
  unfold isWithin at h ⊢
  rw [List.isSuffixOf_iff_suffix] at h ⊢
  exact h.trans (List.suffix_cons name upper.names)

theorem isWithin_trans {place upper lower : Place} (h : lower.isWithin upper = true)
    (h' : upper.isWithin place = true) : lower.isWithin place = true := by
  unfold isWithin at h h' ⊢
  rw [List.isSuffixOf_iff_suffix] at h h' ⊢
  exact h'.trans h

/-- No place lies below one within it. -/
theorem below_ne_of_isWithin {place upper : Place} (h : upper.isWithin place = true) (name : String) :
    upper.below name ≠ place := by
  intro heq
  unfold isWithin at h
  rw [List.isSuffixOf_iff_suffix] at h
  have hlength : place.names.length ≤ upper.names.length := h.length_le
  have hnames : name :: upper.names = place.names := congrArg Place.names heq
  rw [← hnames, List.length_cons] at hlength
  omega

end Place

/-! ## Trees -/

namespace Volume

theorem hasDirectory_iff {v : Volume} {place : Place} :
    v.hasDirectory place = true ↔ v.entryAt? place = some .directory := by
  rw [hasDirectory]
  cases v.entryAt? place with
  | none => exact ⟨fun h => absurd h Bool.false_ne_true, fun h => nomatch h⟩
  | some entry =>
      cases entry with
      | directory => exact ⟨fun _ => rfl, fun _ => rfl⟩
      | file bytes => exact ⟨fun h => absurd h Bool.false_ne_true, fun h => nomatch h⟩

theorem hasDirectory_eq_false_iff {v : Volume} {place : Place} :
    v.hasDirectory place = false ↔ v.entryAt? place ≠ some .directory := by
  rw [← Bool.not_eq_true, hasDirectory_iff]

/-- Whatever is found in a volume lies in a directory. -/
def IsTree (v : Volume) : Prop :=
  ∀ place name, v.entryAt? (place.below name) ≠ none → v.entryAt? place = some .directory

/-- In a tree nothing lies below a place where nothing is. -/
theorem IsTree.none_below {v : Volume} (h : v.IsTree) {place : Place} (hnone : v.entryAt? place = none)
    (name : String) : v.entryAt? (place.below name) = none := by
  cases hbelow : v.entryAt? (place.below name) with
  | none => rfl
  | some entry =>
      have hdirectory := h place name (by rw [hbelow]; exact Option.some_ne_none entry)
      rw [hnone] at hdirectory
      exact nomatch hdirectory

/-- **A change at one place keeps a tree**, if the place lies in a directory and is none itself. -/
theorem IsTree.of_change {v v' : Volume} (h : v.IsTree) {place : Place} {name : String} {entry : Entry}
    (hplace : v.entryAt? place = some .directory)
    (hfree : v.entryAt? (place.below name) ≠ some .directory)
    (hchange : ∀ q, v'.entryAt? q = if q = place.below name then some entry else v.entryAt? q) :
    v'.IsTree := by
  intro q other hbelow
  -- A directory of `v` is not at the place, so it is one of `v'`.
  have hkept : ∀ p, v.entryAt? p = some .directory → v'.entryAt? p = some .directory := by
    intro p hp
    have hne : p ≠ place.below name := by
      rintro rfl
      exact hfree hp
    rw [hchange, if_neg hne, hp]
  apply hkept
  by_cases hq : q.below other = place.below name
  · rw [(Place.below_inj hq).1]
    exact hplace
  · rw [hchange, if_neg hq] at hbelow
    exact h q other hbelow

/-- In a tree the way down to a directory leads through directories. -/
theorem IsTree.directory_of_descend {v : Volume} (h : v.IsTree) {place : Place} {steps : List String}
    (hend : v.entryAt? (place.descend steps) = some .directory) :
    v.entryAt? place = some .directory := by
  induction steps generalizing place with
  | nil => exact hend
  | cons step rest ih =>
      have hnext := ih hend
      by_cases hdot : step = "."
      · rw [if_pos hdot] at hnext
        exact hnext
      · rw [if_neg hdot] at hnext
        apply h place step
        rw [hnext]
        exact Option.some_ne_none _

/-! ## Growth -/

/-- The volume `v'` has all directories and all files of `v`, under the same limits. -/
structure Extends (v v' : Volume) : Prop where
  current_eq : v'.current = v.current
  limits_eq : v'.limits = v.limits
  directory : ∀ place, v.entryAt? place = some .directory → v'.entryAt? place = some .directory
  file : ∀ place bytes, v.entryAt? place = some (.file bytes) →
    ∃ bytes', v'.entryAt? place = some (.file bytes')

theorem Extends.refl (v : Volume) : v.Extends v :=
  ⟨rfl, rfl, fun _ h => h, fun _ bytes h => ⟨bytes, h⟩⟩

theorem Extends.trans {v v' v'' : Volume} (h : v.Extends v') (h' : v'.Extends v'') : v.Extends v'' := by
  refine ⟨h'.current_eq.trans h.current_eq, h'.limits_eq.trans h.limits_eq, ?_, ?_⟩
  · intro place hplace
    exact h'.directory place (h.directory place hplace)
  · intro place bytes hplace
    obtain ⟨bytes', hplace'⟩ := h.file place bytes hplace
    exact h'.file place bytes' hplace'

theorem Extends.start_eq {v v' : Volume} (h : v.Extends v') (isAbsolute : Bool) :
    v'.start isAbsolute = v.start isAbsolute := by
  rw [start, start, h.current_eq]

/-- The volume `v'` has all entries of `v` as they are, under the same limits. -/
structure Contains (v' v : Volume) : Prop where
  current_eq : v'.current = v.current
  limits_eq : v'.limits = v.limits
  entry : ∀ place entry, v.entryAt? place = some entry → v'.entryAt? place = some entry

theorem Contains.refl (v : Volume) : v.Contains v := ⟨rfl, rfl, fun _ _ h => h⟩

theorem Contains.extends {v v' : Volume} (h : v'.Contains v) : v.Extends v' :=
  ⟨h.current_eq, h.limits_eq, fun place hplace => h.entry place _ hplace,
    fun place bytes hplace => ⟨bytes, h.entry place _ hplace⟩⟩

/-- Only the top, a directory in it and nothing else: an empty volume is a tree. -/
theorem isTree_of_single {v : Volume} {name : String}
    (h : v.entries = [(Place.top.below name, .directory)]) : v.IsTree := by
  intro place other hbelow
  by_cases heq : place.below other = Place.top.below name
  · rw [(Place.below_inj heq).1, entryAt?, if_pos rfl]
  · have hother : (place.below other == Place.top.below name) = false := beq_eq_false_iff_ne.mpr heq
    rw [entryAt?, if_neg (Place.below_ne_top place other), h, List.lookup_cons, hother] at hbelow
    exact absurd rfl hbelow

end Volume

end EntityAudit
