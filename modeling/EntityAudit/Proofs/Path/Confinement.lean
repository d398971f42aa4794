import Mathlib.Data.List.TakeWhile
import EntityAudit.Config.Load
import EntityAudit.Java.EntityClass
import EntityAudit.Proofs.Domain.Extraction
import EntityAudit.Proofs.Path.SourceSteps

/-!
# `EntityAudit.Proofs.Path.Confinement` — which sources stay below the directory of artifacts

A package and a suffix may hold any characters, so the segments of a qualified name may be empty and may have
slashes.  Segments are put below each other as paths, and a path that begins at the top replaces what it is
put below.  So a source stays below the directory of artifacts unless a segment begins with a slash; then the
directory plays no part in its path.

## Contents

* `Path.IsBelow` — a path that goes down from a directory
* `slashPieces` — what stands between slashes
* `parts_withExtension`, `isAbsolute_withExtension` — a path with an extension
* `pathOfSegments`, `parts_pathOfSegments`, `isAbsolute_pathOfSegments` — the path that segments spell
* `BeginsAtTop`, `pathFor_isBelow`, `pathFor_of_beginsAtTop` — the two kinds of names
* `sources_confined`, `sources_confined_car`, `package_escapes` — the sources of a pass
-/

namespace EntityAudit

/-! ## Below a directory -/

/-- A path goes down from a directory by at least one step, and never up again. -/
def Path.IsBelow (p root : Path) : Prop :=
  p.isAbsolute = root.isAbsolute ∧ ∃ added, added ≠ [] ∧ ".." ∉ added ∧ p.steps = root.steps ++ added

theorem Path.isAbsolute_eq_true_iff {p : Path} : p.isAbsolute = true ↔ p.text.toList.head? = some '/' := by
  unfold Path.isAbsolute
  exact beq_iff_eq

theorem Path.isAbsolute_eq_false_iff {p : Path} : p.isAbsolute = false ↔ p.text.toList.head? ≠ some '/' := by
  unfold Path.isAbsolute
  exact beq_eq_false_iff_ne

/-- A path that begins at the top replaces what it is put below. -/
theorem push_of_isAbsolute (base : Path) {next : Path} (h : next.isAbsolute = true) :
    base.push next = next := by
  rw [Path.isAbsolute_eq_true_iff] at h
  unfold Path.push Path.pushBackwards
  rw [if_pos h, List.reverse_reverse, String.ofList_toList]

/-! ## Between slashes -/

/-- What stands between slashes, apart from nothing. -/
def slashPieces (cs : List Char) : List (List Char) := (cs.splitOn '/').filter (· ≠ [])

theorem parts_eq (p : Path) : p.parts = (slashPieces p.text.toList).map String.ofList := rfl

theorem slashPieces_append (cs ds : List Char) :
    slashPieces (cs ++ '/' :: ds) = slashPieces cs ++ slashPieces ds := by
  unfold slashPieces
  rw [List.splitOn_append_cons_self, List.filter_append]

/-- Slashes alone have nothing between them. -/
theorem slashPieces_slashes {cs : List Char} (h : ∀ c ∈ cs, c = '/') : slashPieces cs = [] := by
  induction cs with
  | nil => rfl
  | cons c rest ih =>
      obtain ⟨rfl, hrest⟩ := List.forall_mem_cons.mp h
      have hfront := slashPieces_append [] rest
      rw [List.nil_append] at hfront
      rw [hfront, ih hrest]
      rfl

/-- Slashes behind a text separate nothing from it. -/
theorem slashPieces_append_slashes (cs : List Char) {slashes : List Char} (h : ∀ c ∈ slashes, c = '/') :
    slashPieces (cs ++ slashes) = slashPieces cs := by
  cases slashes with
  | nil => rw [List.append_nil]
  | cons c rest =>
      obtain ⟨rfl, hrest⟩ := List.forall_mem_cons.mp h
      rw [slashPieces_append, slashPieces_slashes hrest, List.append_nil]

/-- A character that is no slash stands between slashes. -/
theorem slashPieces_ne_nil {cs : List Char} {c : Char} (h : c ∈ cs) (hslash : c ≠ '/') :
    slashPieces cs ≠ [] := by
  have hjoin : ['/'].intercalate (cs.splitOn '/') = cs := List.intercalate_splitOn '/'
  rcases Text.mem_intercalate (hjoin ▸ h) with heq | ⟨piece, hpiece, hmem⟩
  · exact absurd heq hslash
  · apply List.ne_nil_of_mem
    unfold slashPieces
    rw [List.mem_filter]
    exact ⟨hpiece, decide_eq_true (List.ne_nil_of_mem hmem)⟩

/-- The last of some pieces with slashes between them stays the last one, if it is not empty. -/
theorem slashPieces_intercalate {others : List (List Char)} {last : List Char}
    (hothers : ∀ piece ∈ others, '/' ∉ piece) (hlast : '/' ∉ last) (hne : last ≠ []) :
    slashPieces (['/'].intercalate (others ++ [last])) = others.filter (· ≠ []) ++ [last] := by
  have hpieces : ∀ piece ∈ others ++ [last], '/' ∉ piece := by
    intro piece hpiece
    rcases List.mem_append.mp hpiece with hmem | heq
    · exact hothers piece hmem
    · exact List.mem_singleton.mp heq ▸ hlast
  have hkept : [last].filter (· ≠ []) = [last] := by simp [hne]
  unfold slashPieces
  rw [List.splitOn_intercalate '/' hpieces (List.append_ne_nil_of_right_ne_nil _ (List.cons_ne_nil _ _)),
    List.filter_append, hkept]

/-- What is put behind a text that does not end in a slash belongs to its last piece. -/
theorem exists_last_piece {cs : List Char} (hne : cs ≠ []) (hlast : cs.getLast? ≠ some '/') :
    ∃ front last, slashPieces cs = front ++ [last]
      ∧ ∀ ending, '/' ∉ ending → slashPieces (cs ++ ending) = front ++ [last ++ ending] := by
  obtain ⟨others, last, hsplit⟩ : ∃ others last, cs.splitOn '/' = others ++ [last] :=
    ⟨_, _, (List.dropLast_append_getLast (List.splitOn_ne_nil '/' cs)).symm⟩
  have hjoin : cs = ['/'].intercalate (others ++ [last]) := by
    rw [← hsplit, List.intercalate_splitOn]
  have hpieces : ∀ piece ∈ others ++ [last], '/' ∉ piece := by
    rw [← hsplit]
    exact fun piece hpiece => Text.notMem_of_mem_splitOn hpiece
  obtain ⟨hothers, hslash⟩ := List.forall_mem_append.mp hpieces
  have hslash : '/' ∉ last := hslash last List.mem_cons_self
  have hfilled : last ≠ [] := by
    -- Otherwise the text would end with the slash in front of the last piece.
    rintro rfl
    rw [Text.intercalate_concat, List.append_nil] at hjoin
    rcases List.eq_nil_or_concat others with rfl | ⟨init, piece, rfl⟩
    · exact hne hjoin
    · rw [List.concat_eq_append, List.flatMap_append, List.flatMap_singleton, ← List.append_assoc] at hjoin
      rw [hjoin, List.getLast?_concat] at hlast
      exact hlast rfl
  refine ⟨others.filter (· ≠ []), last, ?_, ?_⟩
  · rw [hjoin]
    exact slashPieces_intercalate hothers hslash hfilled
  · intro ending hending
    have hbehind : cs ++ ending = ['/'].intercalate (others ++ [last ++ ending]) := by
      rw [hjoin, Text.intercalate_concat, Text.intercalate_concat, List.append_assoc]
    rw [hbehind]
    apply slashPieces_intercalate hothers
    · rw [List.mem_append, not_or]
      exact ⟨hslash, hending⟩
    · exact List.append_ne_nil_of_left_ne_nil hfilled ending

/-! ## Extensions -/

/-- Only slashes are missing from a text without the slashes at its end. -/
theorem exists_finalSlashes (cs : List Char) :
    ∃ slashes, cs = Path.dropFinalSlashes cs ++ slashes ∧ ∀ c ∈ slashes, c = '/' := by
  refine ⟨(cs.reverse.takeWhile (· = '/')).reverse, ?_, ?_⟩
  · unfold Path.dropFinalSlashes
    rw [← List.reverse_append, List.takeWhile_append_dropWhile, List.reverse_reverse]
  · intro c hc
    have hslash := List.mem_takeWhile_imp (p := fun c => decide (c = '/')) (List.mem_reverse.mp hc)
    exact of_decide_eq_true hslash

theorem getLast?_dropFinalSlashes (cs : List Char) : (Path.dropFinalSlashes cs).getLast? ≠ some '/' := by
  unfold Path.dropFinalSlashes
  rw [List.getLast?_reverse]
  intro h
  have hhead := List.head?_dropWhile_not (fun c => decide (c = '/')) cs.reverse
  rw [h] at hhead
  exact absurd hhead (by decide)

theorem text_withExtension {p : Path} (extension : String) (h : Path.dropFinalSlashes p.text.toList ≠ []) :
    (p.withExtension extension).text.toList
      = Path.dropFinalSlashes p.text.toList ++ '.' :: extension.toList := by
  unfold Path.withExtension
  cases hcs : Path.dropFinalSlashes p.text.toList with
  | nil => exact absurd hcs h
  | cons c rest => exact String.toList_ofList

/-- An extension belongs to the last part of a path that has one. -/
theorem parts_withExtension {p : Path} {extension : String} (h : p.parts ≠ [])
    (hslash : '/' ∉ extension.toList) : ∃ front last, p.parts = front ++ [last]
      ∧ (p.withExtension extension).parts
        = front ++ [String.ofList (last.toList ++ '.' :: extension.toList)] := by
  obtain ⟨slashes, htext, hslashes⟩ := exists_finalSlashes p.text.toList
  have hpieces : slashPieces p.text.toList = slashPieces (Path.dropFinalSlashes p.text.toList) := by
    conv_lhs => rw [htext]
    exact slashPieces_append_slashes _ hslashes
  have hne : Path.dropFinalSlashes p.text.toList ≠ [] := by
    intro hempty
    rw [parts_eq, hpieces, hempty] at h
    exact h rfl
  obtain ⟨front, last, hlast, hending⟩ := exists_last_piece hne (getLast?_dropFinalSlashes p.text.toList)
  have hnone : '/' ∉ '.' :: extension.toList := by
    rw [List.mem_cons, not_or]
    exact ⟨by decide, hslash⟩
  refine ⟨front.map String.ofList, String.ofList last, ?_, ?_⟩
  · rw [parts_eq, hpieces, hlast, List.map_append, List.map_singleton]
  · rw [parts_eq, text_withExtension extension hne, hending _ hnone, List.map_append, List.map_singleton,
      String.toList_ofList]

/-- A path with an extension begins where the path begins. -/
theorem isAbsolute_withExtension (p : Path) (extension : String) :
    (p.withExtension extension).isAbsolute = p.isAbsolute := by
  cases hcs : Path.dropFinalSlashes p.text.toList with
  | nil =>
      unfold Path.withExtension
      rw [hcs]
  | cons c rest =>
      obtain ⟨slashes, htext, -⟩ := exists_finalSlashes p.text.toList
      have hne : Path.dropFinalSlashes p.text.toList ≠ [] := hcs ▸ List.cons_ne_nil c rest
      have hbegins : p.text.toList.head? = some c := by
        rw [htext, hcs]
        rfl
      unfold Path.isAbsolute
      rw [text_withExtension extension hne, hbegins, hcs]
      rfl

/-! ## Segments -/

/-- The path that segments spell below another. -/
def pathOfSegments (base : Path) (segments : List (List Char)) : Path :=
  segments.foldl (fun p segment => p.push ⟨String.ofList segment⟩) base

theorem pathOfSegments_cons (base : Path) (segment : List Char) (rest : List (List Char)) :
    pathOfSegments base (segment :: rest) = pathOfSegments (base.push ⟨String.ofList segment⟩) rest := rfl

/-- The segments of a name are put below each other from nothing on. -/
theorem segmentPath_eq (segments : List (List Char)) :
    (⟨String.ofList (segmentPath segments)⟩ : Path) = pathOfSegments ⟨""⟩ segments := by
  -- What was spelled so far is kept backwards, whatever it is.
  have hfold (backwards : List Char) :
      (⟨String.ofList (segments.foldl Path.pushBackwards backwards).reverse⟩ : Path)
        = pathOfSegments ⟨String.ofList backwards.reverse⟩ segments := by
    induction segments generalizing backwards with
    | nil => rfl
    | cons segment rest ih =>
        rw [List.foldl_cons, pathOfSegments_cons, ih, Path.push, String.toList_ofList,
          String.toList_ofList, List.reverse_reverse]
  exact hfold []

/-- A path that segments spell below another one begins where that one begins, unless one of them begins at
the top. -/
theorem isAbsolute_pathOfSegments {segments : List (List Char)} (base : Path)
    (h : ∀ segment ∈ segments, segment.head? ≠ some '/') :
    (pathOfSegments base segments).isAbsolute = base.isAbsolute := by
  induction segments generalizing base with
  | nil => rfl
  | cons segment rest ih =>
      obtain ⟨hsegment, hrest⟩ := List.forall_mem_cons.mp h
      rw [pathOfSegments_cons, ih _ hrest]
      apply isAbsolute_push
      rw [String.toList_ofList]
      exact hsegment

/-- Below a path at the top, everything is at the top. -/
theorem isAbsolute_push_of_isAbsolute {base : Path} (h : base.isAbsolute = true) (next : Path) :
    (base.push next).isAbsolute = true := by
  cases hnext : next.isAbsolute with
  | true => rw [push_of_isAbsolute base hnext, hnext]
  | false => rw [isAbsolute_push base (Path.isAbsolute_eq_false_iff.mp hnext), h]

/-- A segment that begins at the top takes the path there, whatever it is put below. -/
theorem isAbsolute_pathOfSegments_of_top {segments : List (List Char)} {base : Path}
    (h : base.isAbsolute = true ∨ ∃ segment ∈ segments, segment.head? = some '/') :
    (pathOfSegments base segments).isAbsolute = true := by
  induction segments generalizing base with
  | nil =>
      rcases h with hbase | ⟨_, hmem, -⟩
      · exact hbase
      · exact absurd hmem List.not_mem_nil
  | cons segment rest ih =>
      rw [pathOfSegments_cons]
      apply ih
      rcases h with hbase | ⟨top, hmem, htop⟩
      · exact Or.inl (isAbsolute_push_of_isAbsolute hbase _)
      · rcases List.mem_cons.mp hmem with rfl | hrest
        · have hnext : (Path.mk (String.ofList top)).isAbsolute = true := by
            rw [Path.isAbsolute_eq_true_iff, String.toList_ofList]
            exact htop
          rw [push_of_isAbsolute base hnext]
          exact Or.inl hnext
        · exact Or.inr ⟨top, hrest, htop⟩

/-- The parts of a path that segments spell are those of all segments. -/
theorem parts_pathOfSegments {segments : List (List Char)} (base : Path)
    (h : ∀ segment ∈ segments, segment.head? ≠ some '/') :
    (pathOfSegments base segments).parts
      = base.parts ++ (segments.flatMap slashPieces).map String.ofList := by
  induction segments generalizing base with
  | nil => exact (List.append_nil _).symm
  | cons segment rest ih =>
      obtain ⟨hsegment, hrest⟩ := List.forall_mem_cons.mp h
      have hnext : (Path.mk (String.ofList segment)).text.toList.head? ≠ some '/' := by
        rw [String.toList_ofList]
        exact hsegment
      rw [pathOfSegments_cons, ih _ hrest, parts_push base hnext, parts_eq ⟨String.ofList segment⟩,
        String.toList_ofList, List.flatMap_cons, List.map_append, List.append_assoc]

/-! ## Names -/

/-- A segment of a name begins with a slash. -/
def BeginsAtTop (name : String) : Prop := ∃ segment ∈ name.toList.splitOn '.', segment.head? = some '/'

instance (name : String) : Decidable (BeginsAtTop name) := by
  unfold BeginsAtTop
  infer_instance

theorem isAbsolute_sourcePath (name : String) :
    (sourcePath name).isAbsolute = (pathOfSegments ⟨""⟩ (name.toList.splitOn '.')).isAbsolute := by
  unfold sourcePath
  rw [isAbsolute_withExtension, segmentPath_eq]

/-- **A name with a segment that begins at the top has one path**, whatever directory it is for. -/
theorem pathFor_of_beginsAtTop {name : String} (h : BeginsAtTop name) (root : Path) :
    pathFor root name = sourcePath name ∧ (sourcePath name).isAbsolute = true := by
  have habsolute : (sourcePath name).isAbsolute = true := by
    rw [isAbsolute_sourcePath]
    exact isAbsolute_pathOfSegments_of_top (Or.inr h)
  exact ⟨push_of_isAbsolute root habsolute, habsolute⟩

/-- What is spelled by characters other than dots neither stays in place nor goes up. -/
theorem ne_dots_of_dot_notMem {step : String} (h : '.' ∉ step.toList) : step ≠ "." ∧ step ≠ ".." := by
  constructor
  · rintro rfl
    exact h (by decide)
  · rintro rfl
    exact h (by decide)

theorem ne_dots_of_extension (front : List Char) :
    String.ofList (front ++ fileEnding) ≠ "." ∧ String.ofList (front ++ fileEnding) ≠ ".." := by
  have hending : fileEnding.getLast? = some 'a' := by decide
  have hlast : (String.ofList (front ++ fileEnding)).toList.getLast? = some 'a' := by
    rw [String.toList_ofList, List.getLast?_append, hending]
    rfl
  constructor
  · intro heq
    rw [heq] at hlast
    exact absurd hlast (by decide)
  · intro heq
    rw [heq] at hlast
    exact absurd hlast (by decide)

section Relative

variable {name : String} (hrelative : ¬ BeginsAtTop name) {c : Char} (hc : c ∈ name.toList) (hdot : c ≠ '.')
  (hslash : c ≠ '/')

include hrelative hc hdot hslash

/-- The path of a source has parts, and none of them stays in place or goes up. -/
theorem descends_sourcePath : (sourcePath name).parts ≠ []
    ∧ ∀ step ∈ (sourcePath name).parts, step ≠ "." ∧ step ≠ ".." := by
  let segments := name.toList.splitOn '.'
  have htop : ∀ segment ∈ segments, segment.head? ≠ some '/' :=
    fun segment hmem htop => hrelative ⟨segment, hmem, htop⟩
  have hparts : (pathOfSegments ⟨""⟩ segments).parts = (segments.flatMap slashPieces).map String.ofList :=
    parts_pathOfSegments ⟨""⟩ htop
  have hne : (pathOfSegments ⟨""⟩ segments).parts ≠ [] := by
    -- The character is in a segment, and there it is in a piece between slashes.
    have hjoin : ['.'].intercalate segments = name.toList := List.intercalate_splitOn '.'
    rcases Text.mem_intercalate (hjoin ▸ hc) with heq | ⟨segment, hsegment, hmem⟩
    · exact absurd heq hdot
    · obtain ⟨piece, hpiece⟩ := List.exists_mem_of_ne_nil _ (slashPieces_ne_nil hmem hslash)
      rw [hparts]
      exact List.ne_nil_of_mem (List.mem_map_of_mem (List.mem_flatMap.mpr ⟨segment, hsegment, hpiece⟩))
  have hdots : ∀ step ∈ (pathOfSegments ⟨""⟩ segments).parts, '.' ∉ step.toList := by
    intro step hstep
    rw [hparts] at hstep
    obtain ⟨piece, hpiece, rfl⟩ := List.mem_map.mp hstep
    obtain ⟨segment, hsegment, hmem⟩ := List.mem_flatMap.mp hpiece
    rw [String.toList_ofList]
    intro hin
    have hfrom := (Text.mem_of_mem_splitOn (List.mem_of_mem_filter hmem) hin).1
    exact Text.notMem_of_mem_splitOn hsegment hfrom
  have hextension : '/' ∉ sourceExtension.toList := by decide
  obtain ⟨front, last, hfront, hsource⟩ := parts_withExtension hne hextension
  have hsource : (sourcePath name).parts = front ++ [String.ofList (last.toList ++ fileEnding)] := by
    unfold sourcePath
    rw [segmentPath_eq]
    exact hsource
  rw [hsource]
  refine ⟨List.append_ne_nil_of_right_ne_nil _ (List.cons_ne_nil _ _), ?_⟩
  intro step hstep
  rcases List.mem_append.mp hstep with hmem | heq
  · apply ne_dots_of_dot_notMem
    apply hdots
    rw [hfront]
    exact List.mem_append_left _ hmem
  · rw [List.mem_singleton.mp heq]
    exact ne_dots_of_extension last.toList

/-- **A name without such a segment has a path below the directory**, if it has anything but dots and
slashes. -/
theorem pathFor_isBelow (root : Path) : (pathFor root name).IsBelow root := by
  obtain ⟨hne, hdescends⟩ := descends_sourcePath hrelative hc hdot hslash
  have hhead : (sourcePath name).text.toList.head? ≠ some '/' := by
    rw [← Path.isAbsolute_eq_false_iff, isAbsolute_sourcePath,
      isAbsolute_pathOfSegments ⟨""⟩ fun segment hmem htop => hrelative ⟨segment, hmem, htop⟩]
    rfl
  refine ⟨isAbsolute_push root hhead, (sourcePath name).parts, hne, ?_, ?_⟩
  · exact fun hmem => (hdescends _ hmem).2 rfl
  · exact steps_push root hhead fun hmem => (hdescends _ hmem).1 rfl

end Relative

/-! ## The sources of a pass -/

theorem exists_isAlpha_of_isTypeName {name : String} (h : isTypeName name = true) :
    ∃ c ∈ name.toList, c.isAlpha = true := by
  unfold isTypeName at h
  cases hname : name.toList with
  | nil =>
      rw [hname] at h
      exact absurd h Bool.false_ne_true
  | cons c rest =>
      rw [hname] at h
      exact ⟨c, List.mem_cons_self, (Bool.and_eq_true_iff.mp h).1⟩

/-- The name of an audit type has the letter with which that of the type begins. -/
theorem exists_letter_of_ofDomain {n : Naming} {t : DomainType} {a : AuditType}
    (h : AuditType.ofDomain n t = .ok a) : ∃ c ∈ a.qualifiedName.toList, c ≠ '.' ∧ c ≠ '/' := by
  obtain ⟨c, hc, halpha⟩ := exists_isAlpha_of_isTypeName (extracts_of_ofDomain h).1
  refine ⟨c, ?_, ?_, ?_⟩
  · unfold AuditType.qualifiedName
    rw [(named_of_ofDomain h).1, Naming.generatedName, String.toList_append, String.toList_append,
      String.toList_append]
    exact List.mem_append_right _ (List.mem_append_left _ hc)
  · rintro rfl
    exact absurd halpha (by decide)
  · rintro rfl
    exact absurd halpha (by decide)

/-- **The sources of a pass stay below the directory of artifacts**, as long as no segment of their names
begins with a slash.  The path of any other source is at the top, and the same for all directories. -/
theorem sources_confined {n : Naming} {t : DomainType} {a : AuditType} (h : AuditType.ofDomain n t = .ok a)
    (root : Path) {name : String}
    (hname : name = a.qualifiedName ∨ name = (interfaceArtifact n.package).qualifiedName) :
    (¬ BeginsAtTop name → (pathFor root name).IsBelow root)
      ∧ (BeginsAtTop name → pathFor root name = sourcePath name ∧ (sourcePath name).isAbsolute = true) := by
  have hletter : ∃ c ∈ name.toList, c ≠ '.' ∧ c ≠ '/' := by
    rcases hname with rfl | rfl
    · exact exists_letter_of_ofDomain h
    · refine ⟨'A', ?_, by decide, by decide⟩
      unfold interfaceArtifact
      rw [String.toList_append]
      exact List.mem_append_right _ (by decide)
  obtain ⟨c, hc, hdot, hslash⟩ := hletter
  constructor
  · exact fun hrelative => pathFor_isBelow hrelative hc hdot hslash root
  · exact fun htop => pathFor_of_beginsAtTop htop root

/-- A car without columns. -/
def plainCar : DomainType := ⟨"Car", "", [.auditable], []⟩

/-- In a package with slashes and an empty segment, the source of a car goes to `out/a/b/CarAudit.java`. -/
theorem sources_confined_car : ∃ a, AuditType.ofDomain ⟨"a/b.", "Audit"⟩ plainCar = .ok a
    ∧ ¬ BeginsAtTop a.qualifiedName ∧ (pathFor ⟨"out"⟩ a.qualifiedName).IsBelow ⟨"out"⟩ := by
  refine ⟨⟨"Car", "CarAudit", "a/b.", []⟩, by rfl, ?_, ?_⟩
  · decide
  · exact (sources_confined (t := plainCar) (n := ⟨"a/b.", "Audit"⟩) rfl ⟨"out"⟩ (Or.inl rfl)).1 (by decide)

/-- Settings with a package that begins with a slash. -/
def slashConfig : Config := ⟨{ package := "/x" }⟩

/-- Nothing is wrong with such settings. -/
theorem parse_slashConfig : Config.parse "[generator]\npackage = \"/x\"\n" = .ok slashConfig := by
  have htoml : Toml.parse? "[generator]\npackage = \"/x\"\n"
      = some (.table [("generator", .table [("package", .text "/x")])]) := by
    let d : Toml.Document := ⟨["generator"], [("generator", .table .header [("package", .value (.text "/x"))])]⟩
    refine Toml.parse?_ofList (d := d) [.table ⟨[], "generator"⟩, .entry ⟨[], "package"⟩ (.text "/x")] ?_ ?_
    · rfl
    · rfl
  unfold Config.parse Config.parseFrom Schema.ofToml
  rw [htoml]
  rfl

/-- They take the sources out of the directory. -/
theorem package_escapes : Config.parse "[generator]\npackage = \"/x\"\n" = .ok slashConfig
    ∧ ∃ a, AuditType.ofDomain slashConfig.generator.naming plainCar = .ok a
      ∧ (pathFor ⟨"out"⟩ a.qualifiedName).text = "/x/CarAudit.java"
      ∧ ¬ (pathFor ⟨"out"⟩ a.qualifiedName).IsBelow ⟨"out"⟩ := by
  refine ⟨parse_slashConfig, ⟨"Car", "CarAudit", "/x", []⟩, by rfl, by rfl, ?_⟩
  rintro ⟨habsolute, -⟩
  exact absurd habsolute (by decide)

end EntityAudit
