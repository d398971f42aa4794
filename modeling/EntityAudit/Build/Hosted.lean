import EntityAudit.Build.Run

/-!
# `EntityAudit.Build.Hosted` — a run inside of a larger build

The build around a run reads directives from its standard output, one in a line: files to be watched, and
warnings.

## Contents

* `HostedError`, `HostedError.message`
* `watch`, `warning` — directives
* `HostedRun`, `runHosted` — the run with what it prints
* `linesOf`, `HostedRun.lines` — the lines of its output
-/

namespace EntityAudit

/-- Why a run failed. -/
inductive HostedError where
  /-- The host does not name a directory for its output. -/
  | noOutDir
  | build (error : BuildError)
deriving DecidableEq, Repr

/-- What is wrong, in words. -/
def HostedError.message : HostedError → String
  | noOutDir => "environment variable not found"
  | build error => error.message

/-- The directive that a file is to be watched. -/
def watch (file : String) : String := "cargo:rerun-if-changed=" ++ file

/-- The directive that a warning is to be shown. -/
def warning (text : String) : String := "cargo:warning=" ++ text

/-- The directory for artifacts below that for the output of the host. -/
def artifactsDir (outDir : Path) : Path := outDir.push ⟨"auditgen"⟩

/-- A run that has ended: what it printed, its result, and the volume after it. -/
structure HostedRun where
  printed : List String
  result : Except HostedError Unit
  volume : Volume

/-- The directives that come before the run. -/
def watches (manifestPath : Path) : List String :=
  [watch "build.rs", watch manifestPath.text, watch configFileName]

/-- Runs a build inside of a larger one.  `outDir` is the directory for the output of the host, if the host
names one. -/
def runHosted (v : Volume) (manifestPath : Path) (outDir : Option Path) : HostedRun :=
  match outDir with
  | none => ⟨watches manifestPath, .error .noOutDir, v⟩
  | some dir =>
    match runBuild v manifestPath ⟨configFileName⟩ (artifactsDir dir) with
    | (.error e, v') => ⟨watches manifestPath, .error (.build e), v'⟩
    | (.ok outcome, v') =>
      ⟨watches manifestPath ++ outcome.errors.map (fun d => warning d.message), .ok (), v'⟩

/-- The output of a run: everything that it printed, with a line break after each piece. -/
def HostedRun.output (r : HostedRun) : List Char :=
  r.printed.flatMap (fun piece => piece.toList ++ ['\n'])

/-- A line without the carriage return that may belong to its break. -/
def dropReturn (line : List Char) : List Char :=
  if line.getLast? = some '\r' then line.dropLast else line

/-- The lines of an output that ends with a break, without the breaks. -/
def linesOf (output : List Char) : List (List Char) :=
  ((output.splitOn '\n').dropLast).map dropReturn

/-- The lines that a run printed. -/
def HostedRun.lines (r : HostedRun) : List String := (linesOf r.output).map String.ofList

end EntityAudit
