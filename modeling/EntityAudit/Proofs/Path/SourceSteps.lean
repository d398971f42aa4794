import EntityAudit.Proofs.Text.Pieces
import EntityAudit.Store.Directory

/-!
# `EntityAudit.Proofs.Path.SourceSteps` — the steps that lead to the source of a type

The segments of a qualified name become steps of a path: the last one, with the extension, is the file, and
those before it are directories.  Segments have no dot, so no step goes up or stays in place, and a
directory, whose name has no dot, is never mistaken for a file, whose name has one.

## Contents

* `IsSourceName` — the qualified names that spell such steps
* `packageSteps`, `fileStep`, `sourceSteps` — the steps
* `sourceSteps_injective` — different names lead to different files
* `text_push`, `parts_push`, `steps_push` — one path below another
* `parts_pathFor`, `parentSteps?_pathFor` — the steps to a file below a directory
-/

namespace EntityAudit

/-! ## Names -/

/-- The segments of a qualified name are not empty and have no slash and no NUL. -/
def IsSourceName (name : String) : Prop :=
  ∀ segment ∈ name.toList.splitOn '.', segment ≠ [] ∧ '/' ∉ segment ∧ '\x00' ∉ segment

instance (name : String) : Decidable (IsSourceName name) := by
  unfold IsSourceName
  infer_instance

/-- The segments before the last one. -/
def packageSegments (name : String) : List (List Char) := (name.toList.splitOn '.').dropLast

/-- The last segment. -/
def lastSegment (name : String) : List Char :=
  (name.toList.splitOn '.').getLast (List.splitOn_ne_nil '.' name.toList)

theorem segments_eq (name : String) :
    name.toList.splitOn '.' = packageSegments name ++ [lastSegment name] :=
  (List.dropLast_append_getLast (List.splitOn_ne_nil '.' name.toList)).symm

theorem dot_notMem_segment {name : String} {segment : List Char}
    (h : segment ∈ packageSegments name ++ [lastSegment name]) : '.' ∉ segment := by
  rw [← segments_eq] at h
  exact Text.notMem_of_mem_splitOn h

/-! ## Steps -/

/-- What is put behind the last segment. -/
def fileEnding : List Char := '.' :: sourceExtension.toList

/-- The directories of a type. -/
def packageSteps (name : String) : List String := (packageSegments name).map String.ofList

/-- The file of a type. -/
def fileStep (name : String) : String := String.ofList (lastSegment name ++ fileEnding)

/-- The steps that lead to the source of a type. -/
def sourceSteps (name : String) : List String := packageSteps name ++ [fileStep name]

example : sourceSteps "a.b.Car" = ["a", "b", "Car.java"] := by decide

theorem sourceSteps_ne_nil (name : String) : sourceSteps name ≠ [] :=
  List.append_ne_nil_of_right_ne_nil _ (List.cons_ne_nil _ _)

/-- **Different names lead to different files.** -/
theorem sourceSteps_injective {name other : String} (h : sourceSteps name = sourceSteps other) :
    name = other := by
  unfold sourceSteps packageSteps at h
  obtain ⟨hpackage, hfile⟩ := List.append_inj' h rfl
  have hsegments : packageSegments name = packageSegments other :=
    List.map_injective_iff.mpr (fun _ _ heq => String.ofList_inj.mp heq) hpackage
  have hlast : lastSegment name = lastSegment other := by
    have heq := String.ofList_inj.mp (List.singleton_inj.mp hfile)
    exact List.append_cancel_right heq
  have hsplit : name.toList.splitOn '.' = other.toList.splitOn '.' := by
    rw [segments_eq, segments_eq, hsegments, hlast]
  rw [← String.toList_inj]
  calc name.toList
      = ['.'].intercalate (name.toList.splitOn '.') := (List.intercalate_splitOn '.').symm
    _ = ['.'].intercalate (other.toList.splitOn '.') := by rw [hsplit]
    _ = other.toList := List.intercalate_splitOn '.'

/-- No directory of a type has a dot in its name. -/
theorem dot_notMem_packageStep {name step : String} (h : step ∈ packageSteps name) :
    '.' ∉ step.toList := by
  obtain ⟨segment, hsegment, rfl⟩ := List.mem_map.mp h
  rw [String.toList_ofList]
  exact dot_notMem_segment (List.mem_append_left _ hsegment)

/-- Every file of a type has a dot in its name. -/
theorem dot_mem_fileStep (name : String) : '.' ∈ (fileStep name).toList := by
  rw [fileStep, String.toList_ofList]
  exact List.mem_append_right _ List.mem_cons_self

/-- A step to the source of a type begins with a character that is neither a dot nor a slash. -/
theorem IsSourceName.exists_head {name step : String} (h : IsSourceName name)
    (hstep : step ∈ sourceSteps name) :
    ∃ c rest, step.toList = c :: rest ∧ c ≠ '.' ∧ c ≠ '/' := by
  unfold IsSourceName at h
  rw [segments_eq] at h
  -- A step is a segment and what is put behind it, if anything.
  have hsegment : ∃ segment ∈ packageSegments name ++ [lastSegment name], ∃ ending,
      step.toList = segment ++ ending := by
    rcases List.mem_append.mp hstep with hpackage | hfile
    · obtain ⟨segment, hsegment, rfl⟩ := List.mem_map.mp hpackage
      refine ⟨segment, List.mem_append_left _ hsegment, [], ?_⟩
      rw [String.toList_ofList, List.append_nil]
    · rw [List.mem_singleton.mp hfile]
      exact ⟨lastSegment name, List.mem_append_right _ List.mem_cons_self, fileEnding,
        String.toList_ofList⟩
  obtain ⟨segment, hsegment, ending, heq⟩ := hsegment
  obtain ⟨hne, hslash, -⟩ := h segment hsegment
  have hdot := dot_notMem_segment hsegment
  cases segment with
  | nil => exact absurd rfl hne
  | cons c rest =>
      refine ⟨c, rest ++ ending, heq, fun hc => ?_, fun hc => ?_⟩
      · exact hdot (hc ▸ List.mem_cons_self)
      · exact hslash (hc ▸ List.mem_cons_self)

/-- No step to the source of a type stays in place or goes up. -/
theorem IsSourceName.descends {name step : String} (h : IsSourceName name)
    (hstep : step ∈ sourceSteps name) : step ≠ "." ∧ step ≠ ".." := by
  obtain ⟨c, rest, heq, hc, -⟩ := h.exists_head hstep
  constructor
  · rintro rfl
    exact hc (List.cons.inj heq).1.symm
  · rintro rfl
    exact hc (List.cons.inj heq).1.symm

theorem IsSourceName.descends_file {name : String} (h : IsSourceName name) :
    fileStep name ≠ "." ∧ fileStep name ≠ ".." :=
  h.descends (List.mem_append_right _ List.mem_cons_self)

theorem IsSourceName.descends_package {name step : String} (h : IsSourceName name)
    (hstep : step ∈ packageSteps name) : step ≠ "." ∧ step ≠ ".." :=
  h.descends (List.mem_append_left _ hstep)

/-- No step to the directory of a source goes up, unless one to the upper directory does. -/
theorem IsSourceName.dots_notMem {name : String} (h : IsSourceName name) {upper : List String}
    (hup : ".." ∉ upper) : ".." ∉ upper ++ packageSteps name := by
  intro hmem
  rcases List.mem_append.mp hmem with hupper | hpackage
  · exact hup hupper
  · exact (h.descends_package hpackage).2 rfl

/-- No step to the source of a type has a NUL. -/
theorem IsSourceName.nul_notMem {name step : String} (h : IsSourceName name)
    (hstep : step ∈ sourceSteps name) : '\x00' ∉ step.toList := by
  unfold IsSourceName at h
  rw [segments_eq] at h
  rcases List.mem_append.mp hstep with hpackage | hfile
  · obtain ⟨segment, hsegment, rfl⟩ := List.mem_map.mp hpackage
    rw [String.toList_ofList]
    exact (h segment (List.mem_append_left _ hsegment)).2.2
  · rw [List.mem_singleton.mp hfile, fileStep, String.toList_ofList]
    intro hmem
    rcases List.mem_append.mp hmem with hlast | hending
    · exact (h _ (List.mem_append_right _ List.mem_cons_self)).2.2 hlast
    · exact absurd hending (by decide)

/-! ## The path of a source -/

/-- Below a text that ends in a slash, or below none, nothing is put in between. -/
theorem pushBackwards_of_ends {base next : List Char} (hnext : next.head? ≠ some '/')
    (hbase : base = [] ∨ base.head? = some '/') :
    Path.pushBackwards base next = next.reverse ++ base := by
  rw [Path.pushBackwards, if_neg hnext, if_pos]
  rw [Bool.or_eq_true, decide_eq_true_eq, decide_eq_true_eq]
  exact hbase

/-- Below any other text a slash is put in between. -/
theorem pushBackwards_of_joins {base next : List Char} (hnext : next.head? ≠ some '/')
    (hbase : ¬ (base = [] ∨ base.head? = some '/')) :
    Path.pushBackwards base next = next.reverse ++ '/' :: base := by
  rw [Path.pushBackwards, if_neg hnext, if_neg]
  rw [Bool.or_eq_true, decide_eq_true_eq, decide_eq_true_eq]
  exact hbase

/-- Segments without slashes, put below each other behind a text that does not end in a slash. -/
theorem foldl_pushBackwards {segments : List (List Char)}
    (h : ∀ segment ∈ segments, segment ≠ [] ∧ '/' ∉ segment) {base : List Char} (hne : base ≠ [])
    (hslash : base.head? ≠ some '/') :
    (segments.foldl Path.pushBackwards base).reverse
      = base.reverse ++ segments.flatMap ('/' :: ·) := by
  induction segments generalizing base with
  | nil => rw [List.foldl_nil, List.flatMap_nil, List.append_nil]
  | cons segment rest ih =>
      obtain ⟨⟨hsegment, hno⟩, hrest⟩ := List.forall_mem_cons.mp h
      have hfirst : segment.head? ≠ some '/' := fun hhead => hno (List.mem_of_mem_head? hhead)
      have hlast : (segment.reverse ++ '/' :: base).head? ≠ some '/' := by
        obtain ⟨c, tail, hrev⟩ := List.exists_cons_of_ne_nil (List.reverse_ne_nil_iff.mpr hsegment)
        rw [hrev]
        intro hhead
        have hmem : c ∈ segment := List.mem_reverse.mp (hrev ▸ List.mem_cons_self)
        exact hno (Option.some.inj hhead ▸ hmem)
      rw [List.foldl_cons, pushBackwards_of_joins hfirst (not_or.mpr ⟨hne, hslash⟩),
        ih hrest (List.append_ne_nil_of_right_ne_nil _ (List.cons_ne_nil _ _)) hlast]
      simp only [List.reverse_append, List.reverse_cons, List.reverse_reverse, List.append_assoc,
        List.flatMap_cons, List.cons_append, List.nil_append]

/-- Segments that are not empty and have no slash spell a path with slashes between them. -/
theorem segmentPath_eq_intercalate {segments : List (List Char)}
    (h : ∀ segment ∈ segments, segment ≠ [] ∧ '/' ∉ segment) :
    segmentPath segments = ['/'].intercalate segments := by
  unfold segmentPath
  cases segments with
  | nil => rfl
  | cons segment rest =>
      obtain ⟨⟨hne, hno⟩, hrest⟩ := List.forall_mem_cons.mp h
      have hfirst : segment.head? ≠ some '/' := fun hhead => hno (List.mem_of_mem_head? hhead)
      have hlast : segment.reverse.head? ≠ some '/' :=
        fun hhead => hno (List.mem_reverse.mp (List.mem_of_mem_head? hhead))
      have hstart : Path.pushBackwards [] segment = segment.reverse := by
        rw [pushBackwards_of_ends hfirst (Or.inl rfl), List.append_nil]
      rw [List.foldl_cons, hstart, foldl_pushBackwards hrest (List.reverse_ne_nil_iff.mpr hne) hlast,
        List.reverse_reverse, Text.intercalate_cons]

/-- A text that does not end in a slash has no slashes at its end. -/
theorem dropFinalSlashes_append (front : List Char) {last : List Char} (hne : last ≠ []) (hslash : '/' ∉ last) :
    Path.dropFinalSlashes (front ++ last) = front ++ last := by
  obtain ⟨c, tail, hrev⟩ := List.exists_cons_of_ne_nil (List.reverse_ne_nil_iff.mpr hne)
  have hc : ¬ decide (c = '/') = true := by
    intro heq
    have hmem : c ∈ last := List.mem_reverse.mp (hrev ▸ List.mem_cons_self)
    exact hslash (of_decide_eq_true heq ▸ hmem)
  have hkept : (front ++ last).reverse.dropWhile (· = '/') = (front ++ last).reverse := by
    rw [List.reverse_append, hrev]
    exact List.dropWhile_cons_of_neg hc
  rw [Path.dropFinalSlashes, hkept, List.reverse_reverse]

/-- **The path of a source** is spelled by its steps. -/
theorem IsSourceName.text_sourcePath {name : String} (h : IsSourceName name) :
    (sourcePath name).text.toList
      = ['/'].intercalate (packageSegments name ++ [lastSegment name ++ fileEnding]) := by
  unfold IsSourceName at h
  rw [segments_eq] at h
  obtain ⟨hne, hslash, -⟩ := h _ (List.mem_append_right _ List.mem_cons_self)
  have hsegments : segmentPath (name.toList.splitOn '.')
      = (packageSegments name).flatMap (· ++ ['/']) ++ lastSegment name := by
    rw [segments_eq, segmentPath_eq_intercalate fun segment hmem => ⟨(h segment hmem).1,
      (h segment hmem).2.1⟩, Text.intercalate_concat]
  have hends := dropFinalSlashes_append ((packageSegments name).flatMap (· ++ ['/'])) hne hslash
  have hnonempty : (packageSegments name).flatMap (· ++ ['/']) ++ lastSegment name ≠ [] :=
    List.append_ne_nil_of_right_ne_nil _ hne
  rw [sourcePath, Path.withExtension, hsegments, String.toList_ofList, hends]
  cases htext : (packageSegments name).flatMap (· ++ ['/']) ++ lastSegment name with
  | nil => exact absurd htext hnonempty
  | cons c rest =>
      show (String.ofList (c :: rest ++ fileEnding)).toList = _
      rw [String.toList_ofList, ← htext, Text.intercalate_concat, List.append_assoc]

/-- The pieces between the slashes of the path of a source are its steps. -/
theorem IsSourceName.parts_sourcePath {name : String} (h : IsSourceName name) :
    (sourcePath name).parts = sourceSteps name := by
  have hpieces : ∀ piece ∈ packageSegments name ++ [lastSegment name ++ fileEnding],
      piece ≠ [] ∧ '/' ∉ piece := by
    unfold IsSourceName at h
    rw [segments_eq] at h
    intro piece hpiece
    rcases List.mem_append.mp hpiece with hpackage | hfile
    · obtain ⟨hne, hslash, -⟩ := h piece (List.mem_append_left _ hpackage)
      exact ⟨hne, hslash⟩
    · obtain ⟨hne, hslash, -⟩ := h _ (List.mem_append_right _ List.mem_cons_self)
      rw [List.mem_singleton.mp hfile]
      refine ⟨List.append_ne_nil_of_left_ne_nil hne _, fun hmem => ?_⟩
      rcases List.mem_append.mp hmem with hlast | hending
      · exact hslash hlast
      · exact absurd hending (by decide)
  have hkept : (packageSegments name ++ [lastSegment name ++ fileEnding]).filter (· ≠ [])
      = packageSegments name ++ [lastSegment name ++ fileEnding] := by
    rw [List.filter_eq_self]
    exact fun piece hpiece => decide_eq_true (hpieces piece hpiece).1
  rw [Path.parts, h.text_sourcePath, List.splitOn_intercalate '/' (fun piece hpiece =>
    (hpieces piece hpiece).2) (List.append_ne_nil_of_right_ne_nil _ (List.cons_ne_nil _ _)), hkept,
    List.map_append]
  rfl

/-! ## One path below another -/

/-- What is put between a path and one below it. -/
def joint (base : Path) : List Char :=
  if base.text.toList = [] ∨ base.text.toList.getLast? = some '/' then [] else ['/']

/-- The spelling of a path below another, if it does not begin at the top. -/
theorem text_push (base : Path) {next : Path} (h : next.text.toList.head? ≠ some '/') :
    (base.push next).text.toList = base.text.toList ++ joint base ++ next.text.toList := by
  rw [Path.push, String.toList_ofList, joint]
  by_cases hbase : base.text.toList = [] ∨ base.text.toList.getLast? = some '/'
  · have hback : base.text.toList.reverse = [] ∨ base.text.toList.reverse.head? = some '/' := by
      rw [List.head?_reverse]
      exact hbase.imp_left List.reverse_eq_nil_iff.mpr
    rw [pushBackwards_of_ends h hback, if_pos hbase, List.reverse_append, List.reverse_reverse,
      List.reverse_reverse, List.append_nil]
  · have hback : ¬ (base.text.toList.reverse = [] ∨ base.text.toList.reverse.head? = some '/') := by
      rw [List.head?_reverse]
      exact fun hor => hbase (hor.imp_left List.reverse_eq_nil_iff.mp)
    rw [pushBackwards_of_joins h hback, if_neg hbase, List.reverse_append, List.reverse_cons,
      List.reverse_reverse, List.reverse_reverse]

/-- The parts of a path below another are those of both. -/
theorem parts_push (base : Path) {next : Path} (h : next.text.toList.head? ≠ some '/') :
    (base.push next).parts = base.parts ++ next.parts := by
  unfold Path.parts
  rw [text_push base h, joint]
  by_cases hempty : base.text.toList = []
  · rw [if_pos (Or.inl hempty), hempty]
    rfl
  · by_cases hlast : base.text.toList.getLast? = some '/'
    · -- The slash at the end of the upper path is the one between the two.
      obtain ⟨front, hfront⟩ := List.getLast?_eq_some_iff.mp hlast
      rw [if_pos (Or.inr hlast), hfront, List.append_nil, List.append_assoc, List.singleton_append,
        List.splitOn_append_cons_self, List.splitOn_append_cons_self, List.splitOn_nil]
      simp only [List.filter_append, List.map_append]
      rw [List.append_cancel_right_eq]
      exact (List.append_nil _).symm
    · rw [if_neg (not_or.mpr ⟨hempty, hlast⟩), List.append_assoc, List.singleton_append,
        List.splitOn_append_cons_self, List.filter_append, List.map_append]

/-- A path below another begins where that one begins. -/
theorem isAbsolute_push (base : Path) {next : Path} (h : next.text.toList.head? ≠ some '/') :
    (base.push next).isAbsolute = base.isAbsolute := by
  unfold Path.isAbsolute
  rw [text_push base h, joint]
  cases htext : base.text.toList with
  | nil =>
      rw [if_pos (Or.inl rfl), List.append_nil, List.nil_append]
      exact beq_false_of_ne h
  | cons c rest => rfl

/-- The steps of a path below another are those of the other and then its parts, if none of these stays in
place. -/
theorem steps_push (base : Path) {next : Path} (h : next.text.toList.head? ≠ some '/')
    (hdots : "." ∉ next.parts) : (base.push next).steps = base.steps ++ next.parts := by
  have hkept : ∀ parts : List String, "." ∉ parts → parts.filter (· ≠ ".") = parts := by
    intro parts hnone
    rw [List.filter_eq_self]
    exact fun step hstep => decide_eq_true fun heq => hnone (heq ▸ hstep)
  rw [Path.steps, parts_push base h, isAbsolute_push base h, Path.steps]
  cases hparts : base.parts with
  | nil =>
      rw [List.nil_append]
      cases hnext : next.parts with
      | nil => rfl
      | cons first rest =>
          rw [hnext, List.mem_cons, not_or] at hdots
          simp only [Ne.symm hdots.1, hkept rest hdots.2, decide_false, Bool.false_and,
            Bool.false_eq_true, if_false]
  | cons first rest =>
      show (if (first = "." && base.isAbsolute) = true
          then (rest ++ next.parts).filter (· ≠ ".")
          else first :: (rest ++ next.parts).filter (· ≠ "."))
        = (if (first = "." && base.isAbsolute) = true then rest.filter (· ≠ ".")
          else first :: rest.filter (· ≠ ".")) ++ next.parts
      rw [List.filter_append, hkept _ hdots]
      by_cases hdrop : (first = "." && base.isAbsolute) = true
      · rw [if_pos hdrop, if_pos hdrop]
      · rw [if_neg hdrop, if_neg hdrop, List.cons_append]

/-! ## The file of a type below a directory -/

variable {name : String}

theorem IsSourceName.head_sourcePath (h : IsSourceName name) :
    (sourcePath name).text.toList.head? ≠ some '/' := by
  -- The first step is the first piece of the text.
  obtain ⟨step, rest, hcons⟩ := List.exists_cons_of_ne_nil (sourceSteps_ne_nil name)
  obtain ⟨c, tail, hstep, -, hslash⟩ := h.exists_head (hcons ▸ List.mem_cons_self)
  have htext : (sourcePath name).text.toList
      = ['/'].intercalate ((sourceSteps name).map String.toList) := by
    rw [h.text_sourcePath, sourceSteps, packageSteps, fileStep]
    simp only [List.map_append, List.map_map, List.map_cons, List.map_nil, String.toList_ofList]
    have hid : String.toList ∘ String.ofList = id := funext fun _ => String.toList_ofList
    rw [hid, List.map_id]
  rw [htext, hcons, List.map_cons, Text.intercalate_cons, hstep]
  intro hhead
  exact hslash (Option.some.inj hhead)

/-- **The parts of the path to a source** are those of the directory and then the steps of the source. -/
theorem IsSourceName.parts_pathFor (h : IsSourceName name) (root : Path) :
    (pathFor root name).parts = root.parts ++ sourceSteps name := by
  rw [pathFor, parts_push root h.head_sourcePath, h.parts_sourcePath]

theorem IsSourceName.isAbsolute_pathFor (h : IsSourceName name) (root : Path) :
    (pathFor root name).isAbsolute = root.isAbsolute := isAbsolute_push root h.head_sourcePath

/-- The path to a source ends in the extension of sources. -/
theorem IsSourceName.exists_text_pathFor (h : IsSourceName name) (root : Path) :
    ∃ front, (pathFor root name).text.toList = front ++ fileEnding := by
  rw [pathFor, text_push root h.head_sourcePath, h.text_sourcePath, Text.intercalate_concat]
  refine ⟨root.text.toList ++ joint root ++ ((packageSegments name).flatMap (· ++ ['/'])
    ++ lastSegment name), ?_⟩
  simp only [List.append_assoc]

/-- The path to a source does not ask for a directory. -/
theorem IsSourceName.asksDirectory_pathFor (h : IsSourceName name) (root : Path) :
    (pathFor root name).asksDirectory = false := by
  obtain ⟨front, hfront⟩ := h.exists_text_pathFor root
  have hending : fileEnding.getLast? = some 'a' := by decide
  rw [Path.asksDirectory, hfront, List.getLast?_append, hending]
  rfl

theorem IsSourceName.text_pathFor_ne (h : IsSourceName name) (root : Path) :
    (pathFor root name).text ≠ "" := by
  obtain ⟨front, hfront⟩ := h.exists_text_pathFor root
  intro hempty
  rw [hempty] at hfront
  have hnil : front ++ fileEnding = [] := hfront.symm
  exact absurd (List.append_eq_nil_iff.mp hnil).2 (by decide)

/-- The steps of a path are its parts, apart from those that stay in place. -/
theorem filter_steps (p : Path) : p.steps.filter (· ≠ ".") = p.parts.filter (· ≠ ".") := by
  unfold Path.steps
  cases hparts : p.parts with
  | nil => rfl
  | cons first rest =>
      simp only []
      split
      · rename_i hdrop
        have hfirst : first = "." := of_decide_eq_true (Bool.and_eq_true_iff.mp hdrop).1
        rw [hfirst, List.filter_cons_of_neg (by decide), List.filter_filter]
        simp only [Bool.and_self]
      · rw [List.filter_cons, List.filter_filter, List.filter_cons]
        simp only [Bool.and_self]

theorem mem_parts_of_mem_steps {p : Path} {step : String} (h : step ∈ p.steps) : step ∈ p.parts := by
  unfold Path.steps at h
  cases hparts : p.parts with
  | nil =>
      rw [hparts] at h
      exact h
  | cons first rest =>
      rw [hparts] at h
      simp only [] at h
      split at h
      · exact List.mem_cons_of_mem first (List.mem_of_mem_filter h)
      · rcases List.mem_cons.mp h with hfirst | hrest
        · exact hfirst ▸ List.mem_cons_self
        · exact List.mem_cons_of_mem first (List.mem_of_mem_filter hrest)

/-- The steps of the path to a source are those of the directory and then the steps of the source. -/
theorem IsSourceName.steps_pathFor (h : IsSourceName name) (root : Path) :
    (pathFor root name).steps = root.steps ++ sourceSteps name := by
  have hdots : "." ∉ (sourcePath name).parts := by
    rw [h.parts_sourcePath]
    exact fun hmem => (h.descends hmem).1 rfl
  rw [pathFor, steps_push root h.head_sourcePath hdots, h.parts_sourcePath]

/-- **The directories above a source** are those of the root and then those of its package. -/
theorem IsSourceName.parentSteps?_pathFor (h : IsSourceName name) (root : Path) :
    (pathFor root name).parentSteps? = some (root.steps ++ packageSteps name) := by
  have hsteps := h.steps_pathFor root
  rw [sourceSteps, ← List.append_assoc] at hsteps
  rw [Path.parentSteps?, hsteps]
  cases hcons : root.steps ++ packageSteps name ++ [fileStep name] with
  | nil => exact absurd hcons (List.append_ne_nil_of_right_ne_nil _ (List.cons_ne_nil _ _))
  | cons first rest =>
      show some (first :: rest).dropLast = _
      rw [← hcons, List.dropLast_concat]

end EntityAudit
