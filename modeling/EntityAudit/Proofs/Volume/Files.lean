import EntityAudit.Proofs.Volume.Ways

/-!
# `EntityAudit.Proofs.Volume.Files` — reading files, and changes that leave them alone

A volume may get more directories and still hold the same files.  Then a path that could be read gives what
it gave before; a path that could not be read cannot be read now either, unless it goes up: the directory
below which it goes up may be one of the new ones.

## Contents

* `read_eq_ok_iff` — when a path can be read
* `BreaksOff`, `Misses`, `read_eq_notFound_iff` — when nothing is where a path leads
* `Volume.KeepsFiles` — a volume with the same files
* `Contains.walk_back`, `KeepsFiles.read_iff` — what is read in it
* `createParents_keepsFiles` — creating directories
-/

namespace EntityAudit.Volume

variable {v v' : Volume} {place q : Place} {steps : List String} {p : Path} {bytes : ByteArray}

/-! ## Reading -/

/-- **A path can be read** exactly if it leads to a file and does not ask for a directory. -/
theorem read_eq_ok_iff : v.read p = .ok bytes ↔
    ∃ place, v.resolve p = .ok place ∧ v.entryAt? place = some (.file bytes)
      ∧ p.asksDirectory = false := by
  unfold read
  cases v.resolve p with
  | error e =>
      refine ⟨nofun, ?_⟩
      rintro ⟨place, hplace, -⟩
      exact nomatch hplace
  | ok place =>
      constructor
      · intro h
        dsimp only at h
        split at h
        · exact nomatch h
        · exact nomatch h
        · rename_i old hentry
          split at h
          · exact nomatch h
          · rename_i hasks
            cases h
            exact ⟨place, rfl, hentry, Bool.eq_false_iff.mpr hasks⟩
      · rintro ⟨_, hplace, hentry, hasks⟩
        cases hplace
        simp only [hentry, hasks, Bool.false_eq_true, if_false]

theorem Extends.resolve_eq_ok (hgrown : v.Extends v') (h : v.resolve p = .ok place) :
    v'.resolve p = .ok place := by
  unfold resolve at h ⊢
  split at h
  · exact nomatch h
  · rename_i hne
    rw [if_neg hne]
    exact hgrown.walkFrom_eq_ok h

/-! ## Files that are not there -/

/-- A walk breaks off: steps at its beginning lead to a place where nothing is.  These may be all of its steps,
and then it is the last one that leads nowhere. -/
def BreaksOff (v : Volume) (place : Place) (steps : List String) : Prop :=
  ∃ front rest q, steps = front ++ rest ∧ v.walk place front = .ok q ∧ v.entryAt? q = none

/-- Nothing is where a path leads: the path is empty, or the walk breaks off. -/
def Misses (v : Volume) (p : Path) : Prop :=
  p.text = "" ∨ refusal? v.limits p.text.utf8ByteSize p.parts = none
    ∧ v.BreaksOff (v.start p.isAbsolute) p.parts

/-- **A walk does not find its way** exactly if it comes to a place where nothing is before its last step. -/
theorem walk_eq_notFound_iff : v.walk place steps = .error (.system .notFound) ↔
    ∃ front step rest q, steps = front ++ step :: rest ∧ v.walk place front = .ok q
      ∧ v.entryAt? q = none := by
  constructor
  · intro h
    induction steps generalizing place with
    | nil => cases h
    | cons step rest ih =>
        cases hplace : v.entryAt? place with
        | none => exact ⟨[], step, rest, place, rfl, rfl, hplace⟩
        | some entry =>
            cases entry with
            | file bytes =>
                rw [walk, hplace] at h
                cases h
            | directory =>
                by_cases hdot : step = "."
                · subst hdot
                  rw [walk_stay hplace] at h
                  obtain ⟨front, last, rest, q, rfl, hfront, hq⟩ := ih h
                  exact ⟨"." :: front, last, rest, q, rfl, (walk_stay hplace).trans hfront, hq⟩
                · by_cases hup : step = ".."
                  · subst hup
                    rw [walk_up hplace] at h
                    obtain ⟨front, last, rest, q, rfl, hfront, hq⟩ := ih h
                    exact ⟨".." :: front, last, rest, q, rfl, (walk_up hplace).trans hfront, hq⟩
                  · by_cases hlong : v.limits.refusesName step = true
                    · rw [walk_refused hplace hdot hup hlong] at h
                      cases h
                    · rw [walk_down hplace hdot hup hlong] at h
                      obtain ⟨front, last, rest, q, rfl, hfront, hq⟩ := ih h
                      exact ⟨step :: front, last, rest, q, rfl,
                        (walk_down hplace hdot hup hlong).trans hfront, hq⟩
  · rintro ⟨front, step, rest, q, rfl, hfront, hq⟩
    rw [walk_append_of_ok hfront, walk, hq]

/-- A walk that breaks off does so on its way or at its end. -/
theorem breaksOff_iff : v.BreaksOff place steps ↔
    v.walk place steps = .error (.system .notFound)
      ∨ ∃ q, v.walk place steps = .ok q ∧ v.entryAt? q = none := by
  constructor
  · rintro ⟨front, rest, q, rfl, hfront, hq⟩
    cases rest with
    | nil =>
        rw [List.append_nil]
        exact Or.inr ⟨q, hfront, hq⟩
    | cons step rest => exact Or.inl (walk_eq_notFound_iff.mpr ⟨front, step, rest, q, rfl, hfront, hq⟩)
  · rintro (h | ⟨q, hwalk, hq⟩)
    · obtain ⟨front, step, rest, q, hsteps, hfront⟩ := walk_eq_notFound_iff.mp h
      exact ⟨front, step :: rest, q, hsteps, hfront⟩
    · exact ⟨steps, [], q, (List.append_nil _).symm, hwalk, hq⟩

/-- A path that is refused is not missing anything. -/
theorem refusal?_ne_notFound (limits : Limits) (size : Nat) (steps : List String) :
    refusal? limits size steps ≠ some (.system .notFound) := by
  unfold refusal?
  split
  · exact nofun
  · split
    · exact nofun
    · exact nofun

/-- **Reading reports that there is no such file** exactly if nothing is where the path leads. -/
theorem read_eq_notFound_iff : v.read p = .error (.system .notFound) ↔ v.Misses p := by
  unfold read resolve walkFrom Misses
  by_cases hempty : p.text = ""
  · rw [if_pos hempty]
    exact ⟨fun _ => Or.inl hempty, fun _ => rfl⟩
  rw [if_neg hempty, or_iff_right hempty, breaksOff_iff]
  cases hrefusal : refusal? v.limits p.text.utf8ByteSize p.parts with
  | some e =>
      refine ⟨fun h => ?_, fun h => nomatch h.1⟩
      cases h
      exact absurd hrefusal (refusal?_ne_notFound _ _ _)
  | none =>
      cases v.walk (v.start p.isAbsolute) p.parts with
      | error e => simp
      | ok place =>
          cases hplace : v.entryAt? place with
          | none => simp [hplace]
          | some entry =>
              cases entry with
              | directory => simp [hplace]
              | file bytes => cases p.asksDirectory <;> simp [hplace]

theorem readText_eq_notFound_iff : v.readText p = .error (.system .notFound) ↔ v.Misses p := by
  rw [← read_eq_notFound_iff]
  unfold readText
  cases v.read p with
  | error e => simp
  | ok bytes => cases htext : String.fromUTF8? bytes <;> simp [htext, IoError.invalidUtf8]

/-! ## Walking in the volume of before -/

/-- In a tree a walk that does not go up leads from nothing to nothing, whatever has been added since. -/
theorem IsTree.none_of_walk (htree : v.IsTree) (hup : ".." ∉ steps) (hnone : v.entryAt? place = none)
    (h : v'.walk place steps = .ok q) : v.entryAt? q = none := by
  induction steps generalizing place with
  | nil => exact Except.ok.inj h ▸ hnone
  | cons step rest ih =>
      have hrest : ".." ∉ rest := fun hmem => hup (List.mem_cons_of_mem _ hmem)
      obtain ⟨-, hwalk⟩ | ⟨rfl, -⟩ | ⟨-, -, -, hwalk⟩ := walk_cons_cases h
      · exact ih hrest hnone hwalk
      · exact absurd List.mem_cons_self hup
      · exact ih hrest (htree.none_below hnone step) hwalk

/-- **A walk to something that was there before** was possible before, if it does not go up. -/
theorem Contains.walk_back (hcontains : v'.Contains v) (htree : v.IsTree) (hup : ".." ∉ steps)
    (h : v'.walk place steps = .ok q) (hq : v.entryAt? q ≠ none) : v.walk place steps = .ok q := by
  induction steps generalizing place with
  | nil => exact h
  | cons step rest ih =>
      have hrest : ".." ∉ rest := fun hmem => hup (List.mem_cons_of_mem _ hmem)
      have hplace : v.entryAt? place = some .directory := by
        cases hentry : v.entryAt? place with
        | none => exact absurd (htree.none_of_walk hup hentry h) hq
        | some entry =>
            have hlater := hcontains.entry place entry hentry
            rw [directory_of_walk_cons h] at hlater
            exact hlater.symm
      obtain ⟨rfl, hwalk⟩ | ⟨rfl, -⟩ | ⟨hdot, hdots, hfits, hwalk⟩ := walk_cons_cases h
      · rw [walk_stay hplace, ih hrest hwalk]
      · exact absurd List.mem_cons_self hup
      · rw [hcontains.limits_eq] at hfits
        rw [walk_down hplace hdot hdots hfits, ih hrest hwalk]

theorem Contains.resolve_back (hcontains : v'.Contains v) (htree : v.IsTree) (hup : ".." ∉ p.parts)
    (h : v'.resolve p = .ok q) (hq : v.entryAt? q ≠ none) : v.resolve p = .ok q := by
  unfold resolve walkFrom at h ⊢
  rw [hcontains.limits_eq, start, hcontains.current_eq] at h
  split at h
  · cases h
  · rename_i hne
    rw [if_neg hne]
    cases hrefusal : refusal? v.limits p.text.utf8ByteSize p.parts with
    | some e =>
        rw [hrefusal] at h
        cases h
    | none =>
        rw [hrefusal] at h
        exact hcontains.walk_back htree hup h hq

/-! ## The same files -/

/-- **The volume `v'` has the files of `v`**, with the same bytes and no others; directories may have been
added. -/
structure KeepsFiles (v v' : Volume) : Prop where
  contains : v'.Contains v
  file_of : ∀ q bytes, v'.entryAt? q = some (.file bytes) → v.entryAt? q = some (.file bytes)

theorem KeepsFiles.refl (v : Volume) : v.KeepsFiles v := ⟨.refl v, fun _ _ h => h⟩

/-- **What is read** is what was read, unless the path goes up. -/
theorem KeepsFiles.read_iff (h : v.KeepsFiles v') (htree : v.IsTree) (hup : ".." ∉ p.parts) :
    v'.read p = .ok bytes ↔ v.read p = .ok bytes := by
  rw [read_eq_ok_iff, read_eq_ok_iff]
  constructor
  · rintro ⟨place, hplace, hentry, hasks⟩
    have hfile := h.file_of place bytes hentry
    refine ⟨place, h.contains.resolve_back htree hup hplace ?_, hfile, hasks⟩
    rw [hfile]
    exact Option.some_ne_none _
  · rintro ⟨place, hplace, hentry, hasks⟩
    exact ⟨place, h.contains.extends.resolve_eq_ok hplace, h.contains.entry place _ hentry, hasks⟩

/-- New directories are no files. -/
theorem Furnished.keepsFiles (h : v.Furnished v' steps) : v.KeepsFiles v' := by
  refine ⟨h.contains, fun q bytes hfile => ?_⟩
  rcases h.entry q with hsame | ⟨-, hnew, -⟩
  · rw [← hsame, hfile]
  · rw [hnew] at hfile
    exact nomatch hfile

/-- **Creating the directories above a path** leaves all files alone, whether it fails or not. -/
theorem createParents_keepsFiles (v : Volume) (p : Path) : v.KeepsFiles (v.createParents p).2 := by
  unfold createParents
  split
  · exact .refl v
  · unfold createDirectories
    split
    · exact .refl v
    · split
      · exact .refl v
      · exact (createDown_created v _ _ _).furnished.keepsFiles

end EntityAudit.Volume
