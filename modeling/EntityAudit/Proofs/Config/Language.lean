import EntityAudit.Proofs.Build.Setup
import EntityAudit.Proofs.Document.Toml.Keys
import EntityAudit.Proofs.Document.Toml.Trees
import EntityAudit.Proofs.Volume.Files

/-!
# `EntityAudit.Proofs.Config.Language` — which texts and files are settings

Settings are strict in what they take and have a default for what is left out.  Which tables are settings is
said here in terms of their entries: there is no key but those of the settings, each value is of the kind of its
setting, and neither the package nor the suffix is blank, whether it is given or not.  Repeated keys need not be
ruled out, since no table of a text has any.  A file is what its text is, and its absence is no error; but it is
absent only where the way to it breaks off, not where something else is in the way.

## Contents

* `settingKinds`, `Value.text?`, `Value.flag?` — the settings of a generator
* `GeneratorConfig.given`, `generatorEntries`, `Config.given` — given settings, and defaults for the others
* `Config.IsAccepted` — which tables are settings
* `GeneratorConfig.denotes_iff`, `Config.denotes_iff` — the shapes say the same
* `Config.parse_eq_ok_iff` — which texts are settings
* `ConfigError.within`, `Config.parseFrom_eq` — errors in a text and in a file
* `Config.LoadsAs`, `Config.load_eq_iff_loadsAs` — what the settings in a file are
* `Config.strict_defaulting`, `Config.load_below_file` — both, and a file that does not exist and is an error
-/

namespace EntityAudit

open Toml (Value)

/-! ## Settings in a table -/

/-- The settings of a generator and the kinds of their values. -/
def settingKinds : List (String × String) :=
  [("package", "string"), ("suffix", "string"), ("out_dir", "string"), ("emit_interface", "boolean")]

namespace Toml.Value

/-- The text that a value is. -/
def text? : Value → Option String
  | text s => some s
  | _ => none

/-- The flag that a value is. -/
def flag? : Value → Option Bool
  | boolean b => some b
  | _ => none

end Toml.Value

/-- The settings that a table gives; a setting without a key there has its default. -/
def GeneratorConfig.given (entries : List (String × Value)) : GeneratorConfig where
  package := ((entries.lookup "package").bind Value.text?).getD ({} : GeneratorConfig).package
  suffix := ((entries.lookup "suffix").bind Value.text?).getD ({} : GeneratorConfig).suffix
  outDir := ((entries.lookup "out_dir").bind Value.text?).map Path.mk
  emitInterface := ((entries.lookup "emit_interface").bind Value.flag?).getD false

/-- The entries of the generator in the table of a document.  Without a generator there are none. -/
def generatorEntries (root : List (String × Value)) : List (String × Value) :=
  match root.lookup "generator" with
  | some (.table entries) => entries
  | _ => []

namespace Config

/-- The settings that the table of a document gives. -/
def given (root : List (String × Value)) : Config := ⟨.given (generatorEntries root)⟩

/-- The table of a document is taken as settings. -/
structure IsAccepted (root : List (String × Value)) : Prop where
  keys : ∀ e ∈ root, e.1 = "generator"
  /-- Every key is that of a setting, and every value is of the kind of its setting. -/
  kinds : ∀ e ∈ generatorEntries root, (e.1, e.2.kind) ∈ settingKinds
  package : ¬ IsBlank (given root).generator.package
  suffix : ¬ IsBlank (given root).generator.suffix

end Config

/-! ## Values -/

section Values

variable {v : Value}

theorem denotes_text_iff_text? {s : String} : Schema.text.Denotes Toml.format v s ↔ v.text? = some s := by
  cases v <;> simp [Schema.Denotes, Toml.format, Value.view, Value.text?]

theorem denotes_flag_iff_flag? {b : Bool} : Schema.flag.Denotes Toml.format v b ↔ v.flag? = some b := by
  cases v <;> simp [Schema.Denotes, Toml.format, Value.view, Value.flag?]

/-- There are no nulls in a document, so a path is always a text. -/
theorem denotes_path_iff_text? {p : Option Path} :
    Schema.path.Denotes Toml.format v p ↔ v.text?.map (fun s => some (Path.mk s)) = some p := by
  cases v <;> simp [Schema.Denotes, Toml.format, Value.view, Value.text?, eq_comm]

theorem isSome_text?_iff : v.text?.isSome = true ↔ v.kind = "string" := by
  cases v <;> simp [Value.text?, Value.kind]

theorem isSome_flag?_iff : v.flag?.isSome = true ↔ v.kind = "boolean" := by
  cases v <;> simp [Value.flag?, Value.kind]

end Values

/-! ## Tables -/

/-- The kinds of all entries are right if those of the entries of each setting are, and there are no others. -/
theorem forall_mem_settingKinds_iff {entries : List (String × Value)} :
    (∀ e ∈ entries, (e.1, e.2.kind) ∈ settingKinds)
      ↔ (∀ key ∈ entries.map Prod.fst, key ∈ ["package", "suffix", "out_dir", "emit_interface"])
        ∧ (∀ v, ("package", v) ∈ entries → v.kind = "string")
        ∧ (∀ v, ("suffix", v) ∈ entries → v.kind = "string")
        ∧ (∀ v, ("out_dir", v) ∈ entries → v.kind = "string")
        ∧ ∀ v, ("emit_interface", v) ∈ entries → v.kind = "boolean" := by
  constructor
  · intro h
    refine ⟨fun key hkey => ?_, fun v hv => ?_, fun v hv => ?_, fun v hv => ?_, fun v hv => ?_⟩
    · obtain ⟨e, he, rfl⟩ := List.mem_map.mp hkey
      have hsetting := List.mem_map_of_mem (f := Prod.fst) (h e he)
      exact hsetting
    all_goals simpa [settingKinds] using h _ hv
  · rintro ⟨hkeys, hpackage, hsuffix, houtDir, hemit⟩ ⟨key, v⟩ he
    have hkey := hkeys key (List.mem_map_of_mem (f := Prod.fst) he)
    simp only [List.mem_cons, List.not_mem_nil, or_false] at hkey
    rcases hkey with rfl | rfl | rfl | rfl
    · simp [settingKinds, hpackage v he]
    · simp [settingKinds, hsuffix v he]
    · simp [settingKinds, houtDir v he]
    · simp [settingKinds, hemit v he]

/-- A directory of artifacts that is given is a path, and none is the default. -/
theorem getD_none_bind_text? (o : Option Value) :
    (o.bind fun v => v.text?.map fun s => some (Path.mk s)).getD none
      = (o.bind Value.text?).map Path.mk := by
  cases o with
  | none => rfl
  | some v => cases hv : v.text? <;> simp [hv]

theorem GeneratorConfig.given_eq_iff {entries : List (String × Value)} {g : GeneratorConfig} :
    GeneratorConfig.given entries = g
      ↔ ((entries.lookup "package").bind Value.text?).getD ({} : GeneratorConfig).package = g.package
        ∧ ((entries.lookup "suffix").bind Value.text?).getD ({} : GeneratorConfig).suffix = g.suffix
        ∧ ((entries.lookup "out_dir").bind Value.text?).map Path.mk = g.outDir
        ∧ ((entries.lookup "emit_interface").bind Value.flag?).getD false = g.emitInterface := by
  cases g
  rw [GeneratorConfig.given, GeneratorConfig.mk.injEq]

/-- **The shape of the settings of a generator** takes the tables whose entries are of the right kinds. -/
theorem GeneratorConfig.denotes_iff {entries : List (String × Value)}
    (hentries : (entries.map Prod.fst).Nodup) {g : GeneratorConfig} :
    GeneratorConfig.schema.Denotes Toml.format (.table entries) g
      ↔ (∀ e ∈ entries, (e.1, e.2.kind) ∈ settingKinds) ∧ GeneratorConfig.given entries = g := by
  have hview : Toml.format.view (.table entries) = .table entries true := rfl
  rw [GeneratorConfig.schema, denotes_via_iff _ fun _ => rfl, denotes_record_of_table hview,
    forall_mem_settingKinds_iff]
  simp only [Fields.Under, Fields.keys, Presence.defaulting, Presence.unlessNone,
    field_iff (fun _ _ => denotes_text_iff_text?) hentries,
    field_iff (fun _ _ => denotes_flag_iff_flag?) hentries,
    field_iff (fun _ _ => denotes_path_iff_text?) hentries, Option.isSome_map, isSome_text?_iff,
    isSome_flag?_iff, getD_none_bind_text?]
  constructor
  · rintro ⟨-, hkeys, ⟨hp, package⟩, ⟨hs, suffix⟩, ⟨ho, outDir⟩, ⟨he, emitInterface⟩, -⟩
    exact ⟨⟨hkeys, hp, hs, ho, he⟩, GeneratorConfig.given_eq_iff.mpr ⟨package, suffix, outDir, emitInterface⟩⟩
  · rintro ⟨⟨hkeys, hp, hs, ho, he⟩, hgiven⟩
    obtain ⟨package, suffix, outDir, emitInterface⟩ := GeneratorConfig.given_eq_iff.mp hgiven
    exact ⟨hentries, hkeys, ⟨hp, package⟩, ⟨hs, suffix⟩, ⟨ho, outDir⟩, ⟨he, emitInterface⟩, True.intro⟩

/-- The entries of a generator that is given. -/
theorem generatorEntries_of_lookup {root entries : List (String × Value)}
    (h : root.lookup "generator" = some (.table entries)) : generatorEntries root = entries := by
  rw [generatorEntries, h]

theorem generatorEntries_of_none {root : List (String × Value)} (h : root.lookup "generator" = none) :
    generatorEntries root = [] := by
  rw [generatorEntries, h]

/-- **The shape of settings** takes the tables that have a generator only, with entries of the right kinds. -/
theorem Config.denotes_iff {root : List (String × Value)} (hroot : (Value.table root).IsOrdered)
    (hgenerator : ∀ v, root.lookup "generator" = some v → ∃ entries, v = .table entries) {c : Config} :
    Config.schema.Denotes Toml.format (.table root) c ↔ (∀ e ∈ root, e.1 = "generator")
      ∧ (∀ e ∈ generatorEntries root, (e.1, e.2.kind) ∈ settingKinds) ∧ Config.given root = c := by
  cases hroot with
  | table hkeys hvalues =>
      have hnodup := nodup_keys_of_ordered hkeys
      have hview : Toml.format.view (.table root) = .table root true := rfl
      have hgiven : Config.given root = c ↔ GeneratorConfig.given (generatorEntries root) = c.generator := by
        cases c
        rw [Config.given, Config.mk.injEq]
      have hunknown : (∀ key ∈ root.map Prod.fst, key ∈ ["generator"]) ↔ ∀ e ∈ root, e.1 = "generator" := by
        simp
      rw [Config.schema, denotes_via_iff _ fun _ => rfl, denotes_record_of_table hview, hgiven]
      simp only [Fields.keys, Fields.Under, hunknown, hnodup, true_and, and_true, Presence.defaulting,
        ← lookup_eq_some_iff_of_nodup hnodup, ← lookup_eq_none_iff_notMem]
      apply and_congr_right'
      cases hlookup : root.lookup "generator" with
      | none =>
          rw [generatorEntries_of_none hlookup]
          simp [GeneratorConfig.given]
      | some v =>
          obtain ⟨entries, rfl⟩ := hgenerator v hlookup
          rw [generatorEntries_of_lookup hlookup, ← GeneratorConfig.denotes_iff ?_]
          · simp
          · -- The table of the generator is one of the tables of the text.
            have hmem := (lookup_eq_some_iff_of_nodup hnodup).mp hlookup
            cases hvalues _ hmem with
            | table hinner => exact nodup_keys_of_ordered hinner

/-! ## Texts -/

namespace Config

/-- What is read is taken if neither of the two settings is blank. -/
theorem validate_eq_ok_iff {c d : Config} : c.validate = .ok d ↔
    c = d ∧ ¬ IsBlank c.generator.package ∧ ¬ IsBlank c.generator.suffix := by
  simp only [← isBlankText_eq_false_iff]
  unfold validate blankKey?
  cases isBlankText c.generator.package with
  | true => simp
  | false => cases isBlankText c.generator.suffix <;> simp

theorem isKeyed_schema : Config.schema.isKeyed = true := by decide

/-- **A text with a generator that is a table is taken exactly if its table is**, and then for what it gives. -/
theorem parse_eq_ok_iff {text : String} {root : List (String × Value)}
    (htext : Toml.parse? text = some (.table root))
    (hgenerator : ∀ v, root.lookup "generator" = some v → ∃ entries, v = .table entries) {c : Config} :
    Config.parse text = .ok c ↔ IsAccepted root ∧ c = given root := by
  have hread : ∀ d, Config.schema.ofToml text = .ok d ↔ Config.schema.Denotes Toml.format (.table root) d := by
    intro d
    rw [Schema.ofToml, htext]
    exact Schema.exact Toml.lawful_format _ isKeyed_schema _ d
  have hparse : Config.parse text = .ok c
      ↔ ∃ d, Config.schema.ofToml text = .ok d ∧ d.validate = .ok c := by
    unfold Config.parse parseFrom
    cases Config.schema.ofToml text <;> simp
  simp only [hparse, hread, validate_eq_ok_iff, Config.denotes_iff (Toml.isOrdered_of_parse? htext) hgenerator]
  constructor
  · rintro ⟨_, ⟨hkeys, hkinds, rfl⟩, rfl, hpackage, hsuffix⟩
    exact ⟨⟨hkeys, hkinds, hpackage, hsuffix⟩, rfl⟩
  · rintro ⟨⟨hkeys, hkinds, hpackage, hsuffix⟩, rfl⟩
    exact ⟨_, ⟨hkeys, hkinds, rfl⟩, rfl, hpackage, hsuffix⟩

end Config

/-! ## Files -/

/-- An error in the text of a file instead of a text on its own: it says which file it is. -/
def ConfigError.within (source : String) : ConfigError → ConfigError
  | .invalid _ fault => .invalid source fault
  | e => e

namespace Config

/-- **Where a text comes from** makes no difference but for what an error in it says of that. -/
theorem parseFrom_eq (source text : String) :
    parseFrom source text = (Config.parse text).mapError (ConfigError.within source) := by
  unfold Config.parse parseFrom
  cases Config.schema.ofToml text with
  | error fault => rfl
  | ok c =>
      dsimp only
      unfold validate
      cases c.blankKey? <;> rfl

/-- What comes of loading settings: the defaults where nothing is, an error where there is something but no
text, and otherwise what the text is on its own. -/
inductive LoadsAs (v : Volume) (path : Path) : Except ConfigError Config → Prop where
  | missing (hmisses : v.Misses path) : LoadsAs v path (.ok {})
  | unreadable {cause : IoError} (hthere : ¬ v.Misses path) (hread : v.readText path = .error cause) :
      LoadsAs v path (.error (.unreadable path.text cause))
  | read {text : String} (hread : v.readText path = .ok text) :
      LoadsAs v path ((Config.parse text).mapError (ConfigError.within path.text))

section Loading

variable {v : Volume} {path : Path}

theorem load_of_misses (h : v.Misses path) : Config.load v path = .ok {} := by
  unfold Config.load
  rw [Volume.readText_eq_notFound_iff.mpr h]

theorem load_of_unreadable {cause : IoError} (hthere : ¬ v.Misses path)
    (hread : v.readText path = .error cause) :
    Config.load v path = .error (.unreadable path.text cause) := by
  have hcause : cause ≠ .system .notFound := by
    rintro rfl
    exact hthere (Volume.readText_eq_notFound_iff.mp hread)
  unfold Config.load
  rw [hread]
  split
  · rename_i heq
    exact absurd (Except.error.inj heq) hcause
  · rename_i heq
    rw [Except.error.inj heq]
  · rename_i heq
    cases heq

theorem load_of_readText {text : String} (hread : v.readText path = .ok text) :
    Config.load v path = (Config.parse text).mapError (ConfigError.within path.text) := by
  unfold Config.load
  rw [hread, ← parseFrom_eq]

/-- **Loading comes to that**, and to nothing else. -/
theorem load_eq_iff_loadsAs {r : Except ConfigError Config} :
    Config.load v path = r ↔ LoadsAs v path r := by
  constructor
  · rintro rfl
    by_cases hmisses : v.Misses path
    · rw [load_of_misses hmisses]
      exact .missing hmisses
    · cases hread : v.readText path with
      | error cause =>
          rw [load_of_unreadable hmisses hread]
          exact .unreadable hmisses hread
      | ok text =>
          rw [load_of_readText hread]
          exact .read hread
  · intro h
    cases h with
    | missing hmisses => exact load_of_misses hmisses
    | unreadable hthere hread => exact load_of_unreadable hthere hread
    | read hread => exact load_of_readText hread

end Loading

/-- **Settings are strict, and they have defaults**: a text is taken exactly if its table is, and then for the
settings that are given and the defaults of the others; a file is what its text is, unless there is none. -/
theorem strict_defaulting :
    (∀ {text : String} {root : List (String × Value)}, Toml.parse? text = some (.table root) →
      (∀ v, root.lookup "generator" = some v → ∃ entries, v = .table entries) →
        ∀ c, Config.parse text = .ok c ↔ IsAccepted root ∧ c = given root)
      ∧ ∀ v path r, Config.load v path = r ↔ LoadsAs v path r :=
  ⟨fun htext hgenerator _ => parse_eq_ok_iff htext hgenerator, fun _ _ _ => load_eq_iff_loadsAs⟩

/-- Settings with a suffix and a directory under dotted keys, in the order in which they are declared. -/
def historyText : String := "generator.suffix = \"History\"\ngenerator.out_dir = 'out'\n"

/-- The table of that text. -/
def historyEntries : List (String × Value) :=
  [("generator", .table [("out_dir", .text "out"), ("suffix", .text "History")])]

/-- The suffix and the directory are those of the text, and the package is the default.  Where there is no file
at all, everything is. -/
theorem strict_defaulting_history :
    Toml.parse? historyText = some (.table historyEntries) ∧
    (∀ v, historyEntries.lookup "generator" = some v → ∃ entries, v = .table entries) ∧
    Config.parse historyText = .ok ⟨⟨"com.lsq.systems.metagen58", "History", some ⟨"out"⟩, false⟩⟩ ∧
    Config.load (.scratch "work") ⟨configFileName⟩ = .ok {} := by
  have htext : Toml.parse? historyText = some (.table historyEntries) := by
    let entries : Toml.Entries := [("out_dir", .value (.text "out")), ("suffix", .value (.text "History"))]
    let d : Toml.Document := ⟨[], [("generator", .table .dotted entries)]⟩
    rw [historyText]
    refine Toml.parse?_ofList (d := d)
      [.entry ⟨["generator"], "suffix"⟩ (.text "History"), .entry ⟨["generator"], "out_dir"⟩ (.text "out")] ?_ ?_
    · rfl
    · rfl
  have hgenerator : ∀ v, historyEntries.lookup "generator" = some v → ∃ entries, v = .table entries :=
    fun v hv => ⟨_, (Option.some.inj hv).symm⟩
  have haccepted : IsAccepted historyEntries := by
    refine ⟨by decide, by decide, ?_, ?_⟩
    · exact isBlankText_eq_false_iff.mp (by decide)
    · exact isBlankText_eq_false_iff.mp (by decide)
  obtain ⟨hparse, hload⟩ := strict_defaulting
  refine ⟨htext, hgenerator, (hparse htext hgenerator _).mpr ⟨haccepted, rfl⟩, ?_⟩
  refine (hload _ _ _).mpr (.missing (Or.inr ⟨by decide, ["auditgen.toml"], [], ?_⟩))
  exact ⟨(Place.top.below "work").below "auditgen.toml", by decide, by rfl, by decide⟩

/-- A directory with a file of notes. -/
def notesVolume : Volume :=
  (Volume.scratch "work").put ((Place.top.below "work").below "notes.txt") (.file "x".toUTF8)

/-- **Not every file that does not exist is the defaults**: below a file there is no other, and to look for one
there is an error. -/
theorem load_below_file : ¬ ∀ (v : Volume) (path : Path),
    (∀ place, v.resolve path = .ok place → v.entryAt? place = none) → Config.load v path = .ok {} := by
  intro h
  have hresolve : notesVolume.resolve ⟨"notes.txt/auditgen.toml"⟩ = .error (.system .notADirectory) := by rfl
  have hload : Config.load notesVolume ⟨"notes.txt/auditgen.toml"⟩
      = .error (.unreadable "notes.txt/auditgen.toml" (.system .notADirectory)) := by rfl
  have hdefaults := h notesVolume ⟨"notes.txt/auditgen.toml"⟩ fun place hplace => by
    rw [hresolve] at hplace
    cases hplace
  rw [hload] at hdefaults
  cases hdefaults

end Config

end EntityAudit
