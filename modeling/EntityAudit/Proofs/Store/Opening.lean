import EntityAudit.Proofs.Path.Confinement
import EntityAudit.Proofs.Store.FailedWrite

/-!
# `EntityAudit.Proofs.Store.Opening` — where an open sink leads

Opening the sink of a type creates the directories above its file.  In a volume without limits that is enough
for the path of the file to lead to a place, also where the path goes up on its way, if it can be the path of
a file at all: it is not empty, does not end in a slash and has no NUL.

## Contents

* `Path.NamesFile` — a path that can be that of a file
* `exists_last_part`, `exists_last_step` — the last part of the path of a type
* `Volume.IsIdeal` — volumes in which only what is there is in the way
* `createDown_walk`, `walk_of_filter` — walking where directories were created
* `Directory.exists_place_of_opens` — where an open sink leads
-/

namespace EntityAudit

/-! ## The last part of a path -/

/-- The path can be that of a file: it is not empty, does not ask for a directory and has no NUL. -/
structure Path.NamesFile (p : Path) : Prop where
  text_ne : p.text ≠ ""
  unslashed : p.asksDirectory = false
  nul_notMem : ∀ part ∈ p.parts, '\x00' ∉ part.toList

theorem Path.asksDirectory_eq_false_iff {p : Path} :
    p.asksDirectory = false ↔ p.text.toList.getLast? ≠ some '/' := by
  unfold Path.asksDirectory
  exact beq_eq_false_iff_ne

/-- A path without parts has slashes only. -/
theorem dropFinalSlashes_of_parts_eq_nil {p : Path} (h : p.parts = []) :
    Path.dropFinalSlashes p.text.toList = [] := by
  by_contra hne
  obtain ⟨slashes, htext, -⟩ := exists_finalSlashes p.text.toList
  -- The last character before the slashes at the end is in a part.
  obtain ⟨front, c, hfront⟩ := List.eq_nil_or_concat' (Path.dropFinalSlashes p.text.toList) |>.resolve_left hne
  have hc : c ≠ '/' := by
    rintro rfl
    have hlast := getLast?_dropFinalSlashes p.text.toList
    rw [hfront, List.getLast?_concat] at hlast
    exact hlast rfl
  have hmem : c ∈ p.text.toList := by
    rw [htext, hfront]
    exact List.mem_append_left _ (List.mem_append_right _ List.mem_cons_self)
  rw [parts_eq, List.map_eq_nil_iff] at h
  exact slashPieces_ne_nil hmem hc h

/-- The path of a source asks for a directory, is empty, or ends in a file that has an extension. -/
theorem sourcePath_cases (name : String) :
    (sourcePath name).text = "" ∨ (sourcePath name).asksDirectory = true
      ∨ ∃ front last, (sourcePath name).parts = front ++ [String.ofList (last ++ fileEnding)] := by
  by_cases hparts : (⟨String.ofList (segmentPath (name.toList.splitOn '.'))⟩ : Path).parts = []
  · have hnone := dropFinalSlashes_of_parts_eq_nil hparts
    obtain ⟨slashes, htext, hslashes⟩ :=
      exists_finalSlashes (⟨String.ofList (segmentPath (name.toList.splitOn '.'))⟩ : Path).text.toList
    have hsource : (sourcePath name).text.toList = slashes := by
      unfold sourcePath Path.withExtension
      rw [hnone]
      rw [hnone, List.nil_append] at htext
      exact htext
    rcases List.eq_nil_or_concat' slashes with rfl | ⟨front, c, rfl⟩
    · exact Or.inl (String.toList_eq_nil_iff.mp hsource)
    · right
      left
      rw [← Bool.not_eq_false, Path.asksDirectory_eq_false_iff, hsource, List.getLast?_concat,
        hslashes c (List.mem_append_right _ List.mem_cons_self), not_not]
  · have hextension : '/' ∉ sourceExtension.toList := by decide
    obtain ⟨front, last, -, hsource⟩ := parts_withExtension hparts hextension
    exact Or.inr (Or.inr ⟨front, last.toList, hsource⟩)

/-- **The path of a type that can be that of a file ends in one**, which neither stays in place nor goes up. -/
theorem exists_last_part {root : Path} {name : String} (h : (pathFor root name).NamesFile) :
    ∃ front file, (pathFor root name).parts = front ++ [file] ∧ file ≠ "." ∧ file ≠ ".." := by
  have hslash := Path.asksDirectory_eq_false_iff.mp h.unslashed
  cases habsolute : (sourcePath name).isAbsolute with
  | true =>
      -- The root plays no part.
      have hpath : pathFor root name = sourcePath name := push_of_isAbsolute root habsolute
      rw [hpath] at h hslash ⊢
      rcases sourcePath_cases name with hempty | hasks | ⟨front, last, hparts⟩
      · exact absurd hempty h.text_ne
      · exact absurd (h.unslashed.symm.trans hasks) Bool.false_ne_true
      · exact ⟨front, _, hparts, ne_dots_of_extension last⟩
  | false =>
      have hhead := Path.isAbsolute_eq_false_iff.mp habsolute
      have htext := text_push root hhead
      rcases sourcePath_cases name with hempty | hasks | ⟨front, last, hparts⟩
      · -- An empty path leaves the root with a slash behind it, if there is a root at all.
        exfalso
        rw [hempty, String.toList_empty, List.append_nil, joint] at htext
        split at htext
        · rename_i hroot
          rw [List.append_nil] at htext
          rcases hroot with hnil | hlast
          · exact h.text_ne (String.toList_eq_nil_iff.mp (htext.trans hnil))
          · exact hslash ((congrArg List.getLast? htext).trans hlast)
        · exact hslash ((congrArg List.getLast? htext).trans List.getLast?_concat)
      · exfalso
        rw [← Bool.not_eq_false, Path.asksDirectory_eq_false_iff, not_not] at hasks
        apply hslash
        rw [pathFor, htext, List.getLast?_append, hasks]
        rfl
      · refine ⟨root.parts ++ front, _, ?_, ne_dots_of_extension last⟩
        rw [pathFor, parts_push root hhead, hparts, List.append_assoc]

/-- A path whose last part does not stay in place has this part as its last step. -/
theorem exists_last_step {p : Path} {front : List String} {file : String} (h : p.parts = front ++ [file])
    (hdot : file ≠ ".") :
    ∃ upper, p.parentSteps? = some upper ∧ upper.filter (· ≠ ".") = front.filter (· ≠ ".") := by
  obtain ⟨upper, hsteps, hupper⟩ :
      ∃ upper, p.steps = upper ++ [file] ∧ upper.filter (· ≠ ".") = front.filter (· ≠ ".") := by
    have hkept : [file].filter (· ≠ ".") = [file] := List.filter_cons_of_pos (decide_eq_true hdot)
    unfold Path.steps
    rw [h]
    cases front with
    | nil =>
        refine ⟨[], ?_, rfl⟩
        simp [hdot]
    | cons first rest =>
        simp only [List.cons_append]
        split
        · rename_i hfirst
          have hfirst : first = "." := of_decide_eq_true (Bool.and_eq_true_iff.mp hfirst).1
          refine ⟨rest.filter (· ≠ "."), by rw [List.filter_append, hkept], ?_⟩
          rw [hfirst, List.filter_cons_of_neg (by decide), List.filter_filter]
          simp only [Bool.and_self]
        · refine ⟨first :: rest.filter (· ≠ "."), by rw [List.filter_append, hkept, List.cons_append], ?_⟩
          rw [List.filter_cons, List.filter_filter, List.filter_cons]
          simp only [Bool.and_self]
  refine ⟨upper, ?_, hupper⟩
  unfold Path.parentSteps?
  cases hcons : upper ++ [file] with
  | nil => exact absurd hcons (List.append_ne_nil_of_right_ne_nil _ (List.cons_ne_nil _ _))
  | cons first rest =>
      rw [hsteps, hcons]
      simp only [← hcons, List.dropLast_concat]

/-! ## Directories that were created -/

namespace Volume

variable {v w : Volume} {place q : Place} {steps : List String} {isCreating : Bool}

/-- An ideal volume: a tree without limits on names and paths, whose current directory is there. -/
structure IsIdeal (v : Volume) : Prop where
  isTree : v.IsTree
  limits_eq : v.limits = .unbounded
  current : v.entryAt? v.current = some .directory

/-- Every path starts in a directory. -/
theorem IsIdeal.start (h : v.IsIdeal) (isAbsolute : Bool) :
    v.entryAt? (v.start isAbsolute) = some .directory := by
  cases isAbsolute with
  | true => exact if_pos rfl
  | false => exact h.current

/-- In a tree a directory lies in a directory. -/
theorem IsTree.directory_above (h : v.IsTree) (hplace : v.entryAt? place = some .directory) :
    v.entryAt? place.above = some .directory := by
  cases hnames : place.names with
  | nil =>
      have htop : place.above = .top := by
        apply Place.ext_names
        show place.names.tail = []
        rw [hnames]
        rfl
      rw [htop]
      exact if_pos rfl
  | cons name names =>
      have hbelow : place.above.below name = place := by
        apply Place.ext_names
        show name :: place.names.tail = place.names
        rw [hnames]
        rfl
      apply h place.above name
      rw [hbelow, hplace]
      exact Option.some_ne_none _

/-- **Where directories were created, the steps lead to the last of them**, also if they go up. -/
theorem createDown_walk (htree : v.IsTree) (hplace : v.entryAt? place = some .directory)
    (h : v.createDown place isCreating steps = (.ok (), w)) :
    ∃ q, w.walk place steps = .ok q ∧ w.entryAt? q = some .directory := by
  induction steps generalizing v place isCreating with
  | nil =>
      obtain rfl : v = w := (Prod.ext_iff.mp h).2
      exact ⟨place, rfl, hplace⟩
  | cons step rest ih =>
      have hgrown : v.Extends w := by
        have hcreated := (createDown_created v place isCreating (step :: rest)).furnished.extends
        rwa [h] at hcreated
      have hplace' := hgrown.directory place hplace
      rcases createDown_cons_cases hplace step with rfl | rfl | ⟨hdot, hup, hlong⟩ | hdescends
      · rw [createDown_stay hplace] at h
        rw [walk_stay hplace']
        exact ih htree hplace h
      · rw [createDown_up hplace] at h
        rw [walk_up hplace']
        exact ih htree (htree.directory_above hplace) h
      · rw [createDown_refused hplace hdot hup hlong] at h
        exact nomatch (Prod.ext_iff.mp h).1
      · have hfits := hdescends.fits
        rw [← hgrown.limits_eq] at hfits
        rw [walk_down hplace' hdescends.ne_dot hdescends.ne_dots hfits]
        cases hbelow : v.entryAt? (place.below step) with
        | none =>
            rw [createDown_new hdescends hbelow] at h
            exact ih (htree.put_directory hplace hbelow) (entryAt?_put_self v place step .directory) h
        | some entry =>
            cases entry with
            | directory =>
                rw [createDown_through hdescends hbelow] at h
                exact ih htree hbelow h
            | file bytes =>
                rw [createDown_blocked hdescends hbelow] at h
                exact nomatch (Prod.ext_iff.mp h).1

/-- A walk to a directory may stay in place on its way. -/
theorem walk_of_filter (h : v.walk place (steps.filter (· ≠ ".")) = .ok q)
    (hq : v.entryAt? q = some .directory) : v.walk place steps = .ok q := by
  induction steps generalizing place with
  | nil => exact h
  | cons step rest ih =>
      have hplace := directory_of_walk h hq
      by_cases hdot : step = "."
      · subst hdot
        rw [walk_stay hplace]
        exact ih h
      · have hkept : (step :: rest).filter (· ≠ ".") = step :: rest.filter (· ≠ ".") :=
          List.filter_cons_of_pos (decide_eq_true hdot)
        rw [hkept] at h
        obtain ⟨hstay, -⟩ | ⟨rfl, hrest⟩ | ⟨-, hup, hfits, hrest⟩ := walk_cons_cases h
        · exact absurd hstay hdot
        · rw [walk_up hplace, ih hrest]
        · rw [walk_down hplace hdot hup hfits, ih hrest]

/-- **A path that can be that of a file leads to a place** once the directories above it are there. -/
theorem exists_place_of_createParents {p : Path} {front : List String} {file : String} (hv : v.IsIdeal)
    (hp : p.NamesFile) (hparts : p.parts = front ++ [file]) (hdot : file ≠ ".") (hup : file ≠ "..")
    (h : v.createParents p = (.ok (), w)) : ∃ place, w.resolve p = .ok place := by
  obtain ⟨upper, hparent, hupper⟩ := exists_last_step hparts hdot
  have hkept : v.KeepsFiles w := by
    have hkept := createParents_keepsFiles v p
    rwa [h] at hkept
  have hcreate : v.createDown (v.start p.isAbsolute) false upper = (.ok (), w) := by
    simp only [createParents, hparent, createDirectories] at h
    split at h
    · rename_i hnil
      rw [hnil]
      exact h
    · split at h
      · exact nomatch (Prod.ext_iff.mp h).1
      · exact h
  obtain ⟨q, hwalk, hq⟩ := createDown_walk hv.isTree (hv.start p.isAbsolute) hcreate
  -- The parts lead where the steps lead, and from there down to the file.
  have hfront : w.walk (v.start p.isAbsolute) front = .ok q := by
    apply walk_of_filter _ hq
    rw [← hupper]
    exact walk_filter hwalk
  have hlimits : w.limits = .unbounded := hkept.contains.limits_eq.trans hv.limits_eq
  refine ⟨q.below file, ?_⟩
  rw [resolve_eq hp.text_ne, hlimits, refusal?_unbounded hp.nul_notMem]
  dsimp only
  rw [hkept.contains.extends.start_eq, hparts, walk_append_of_ok hfront]
  refine walk_down hq hdot hup ?_
  rw [hlimits]
  exact Bool.false_ne_true

end Volume

namespace Directory

/-- **Where an open sink leads**: to a place, if its path can be that of a file. -/
theorem exists_place_of_opens {v opened : Volume} {root : Path} {name : String} {f : PendingFile}
    (hv : v.IsIdeal) (h : (store root).Opens name v (f, opened)) (hp : (pathFor root name).NamesFile) :
    ∃ place, opened.resolve (pathFor root name) = .ok place := by
  obtain ⟨front, file, hparts, hdot, hup⟩ := exists_last_part hp
  apply Volume.exists_place_of_createParents hv hp hparts hdot hup
  obtain ⟨hresult, hstate⟩ := h
  rw [openSink_eq] at hresult hstate
  cases hcreated : (v.createParents (pathFor root name)).1 with
  | error e =>
      rw [hcreated] at hresult
      exact nomatch hresult
  | ok =>
      dsimp only at hstate
      rw [Prod.ext_iff]
      exact ⟨hcreated, hstate⟩

end Directory

end EntityAudit
