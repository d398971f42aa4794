import EntityAudit.Path.Basic
import EntityAudit.Volume.IoError

/-!
# `EntityAudit.Volume.Basic` — a tree of directories and files

A volume says what is found at each place and keeps a list of the files that were written.  A path leads
from the current directory, or from the top, through directories to a place; an operation fails when
the way there, or what is found there, does not suit it.

## Contents

* `Place`, `Place.below`, `Place.above`
* `Limits` — how long names and paths may be
* `Entry`, `Volume`
* `Volume.entryAt?`, `Volume.put`, `Volume.erase`, `Volume.eraseBelow` — the content of places
* `Volume.walk`, `Volume.resolve` — where a path leads
* `Volume.read`, `Volume.readText`, `Volume.write` — files
* `Volume.createDirectories`, `Volume.createParents`, `Volume.makeDirectory` — directories
* `Volume.remove`, `Volume.listing` — trees
* `entryAt?_put` — what is found after a change
-/

namespace EntityAudit

/-! ## Places -/

/-- A place in a volume: the names that lead to it from the top, the nearest one first.  Their number comes
before them, so that places of different depth are told apart at once. -/
structure Place where
  depth : Nat
  names : List String
  depth_eq : depth = names.length
deriving DecidableEq

namespace Place

/-- The top of a volume. -/
def top : Place := ⟨0, [], rfl⟩

/-- The place of a name below another place. -/
def below (place : Place) (name : String) : Place :=
  ⟨place.depth + 1, name :: place.names, by simp [place.depth_eq]⟩

/-- The place above; nothing is above the top. -/
def above (place : Place) : Place :=
  ⟨place.depth - 1, place.names.tail, by simp [place.depth_eq]⟩

/-- Whether a place is another one or lies below it. -/
def isWithin (place upper : Place) : Bool := upper.names.isSuffixOf place.names

/-- The names that lead to a place from one above it. -/
def namesFrom (upper place : Place) : List String :=
  (place.names.take (place.depth - upper.depth)).reverse

/-- The names alone tell places apart. -/
theorem ext_names {p q : Place} (h : p.names = q.names) : p = q := by
  obtain ⟨m, names, hm⟩ := p
  obtain ⟨n, _, hn⟩ := q
  subst h
  subst hm
  subst hn
  rfl

end Place

/-! ## Limits -/

/-- The most bytes that a name and a path may have; where no number is given, there is no limit. -/
structure Limits where
  nameSize : Option Nat
  pathSize : Option Nat
deriving DecidableEq, Repr

namespace Limits

/-- No limits. -/
def unbounded : Limits := ⟨none, none⟩

/-- The limits that are usual. -/
def usual : Limits := ⟨some 255, some 4095⟩

/-- Whether a size is beyond a limit. -/
def isExceeded (limit : Option Nat) (size : Nat) : Bool :=
  match limit with
  | none => false
  | some most => most < size

/-- Whether a name is too long. -/
def refusesName (limits : Limits) (name : String) : Bool := isExceeded limits.nameSize name.utf8ByteSize

/-- Whether a path of so many bytes is too long. -/
def refusesPath (limits : Limits) (size : Nat) : Bool := isExceeded limits.pathSize size

end Limits

/-! ## Volumes -/

/-- What is found at a place. -/
inductive Entry where
  | directory
  | file (bytes : ByteArray)

/-- Whether a directory is found. -/
def Entry.isDirectory : Entry → Bool
  | directory => true
  | file _ => false

/-- A tree of directories and files.  The top is always a directory. -/
structure Volume where
  entries : List (Place × Entry)
  current : Place
  /-- The files that were written, the latest first. -/
  written : List Place
  limits : Limits

namespace Volume

/-- What is found at a place. -/
def entryAt? (v : Volume) (place : Place) : Option Entry :=
  if place = .top then some .directory else v.entries.lookup place

/-- Whether a directory is found at a place. -/
def hasDirectory (v : Volume) (place : Place) : Bool :=
  match v.entryAt? place with
  | none => false
  | some entry => entry.isDirectory

/-- Puts an entry at a place, in a list. -/
def putEntry (place : Place) (entry : Entry) : List (Place × Entry) → List (Place × Entry)
  | [] => [(place, entry)]
  | (p, e) :: rest => if p = place then (place, entry) :: rest else (p, e) :: putEntry place entry rest

/-- Puts an entry at a place. -/
def put (v : Volume) (place : Place) (entry : Entry) : Volume :=
  { v with entries := putEntry place entry v.entries }

/-- Removes a place and everything below it. -/
def erase (v : Volume) (place : Place) : Volume :=
  { v with entries := v.entries.filter (fun e => !e.1.isWithin place) }

/-- Removes everything below a place. -/
def eraseBelow (v : Volume) (place : Place) : Volume :=
  { v with entries := v.entries.filter (fun e => e.1 = place || !e.1.isWithin place) }

theorem lookup_putEntry (place other : Place) (entry : Entry) (entries : List (Place × Entry)) :
    (putEntry place entry entries).lookup other
      = if other = place then some entry else entries.lookup other := by
  induction entries with
  | nil =>
    by_cases h : other = place
    · simp [putEntry, h]
    · have hb : (other == place) = false := by simp [h]
      simp [putEntry, List.lookup_cons, hb, h]
  | cons e rest ih =>
    obtain ⟨p, e⟩ := e
    rw [putEntry]
    split
    · rename_i heq
      subst heq
      by_cases h : other = p
      · simp [h]
      · have hb : (other == p) = false := by simp [h]
        simp [List.lookup_cons, hb, h]
    · rename_i hne
      by_cases h : other = place
      · subst h
        have hb : (other == p) = false := by simp [Ne.symm hne]
        simpa [List.lookup_cons, hb] using ih
      · simp [List.lookup_cons, ih, h]

/-- Only the place itself changes. -/
theorem entryAt?_put (v : Volume) (place other : Place) (entry : Entry) (h : place ≠ .top) :
    (v.put place entry).entryAt? other = if other = place then some entry else v.entryAt? other := by
  by_cases ho : other = .top
  · subst ho
    simp [entryAt?, Ne.symm h]
  · simp [entryAt?, put, ho, lookup_putEntry]

/-! ## Paths -/

/-- The place to which steps lead from a place.  Every step starts in a directory, and a name that is too
long is refused there. -/
def walk (v : Volume) (place : Place) : List String → Except IoError Place
  | [] => .ok place
  | step :: rest =>
    match v.entryAt? place with
    | none => .error (.system .notFound)
    | some (.file _) => .error (.system .notADirectory)
    | some .directory =>
      if step = "." then walk v place rest
      else if step = ".." then walk v place.above rest
      else if v.limits.refusesName step then .error (.system .invalidFilename)
      else walk v (place.below step) rest

/-- Why a path of so many bytes with such steps is refused before anything is looked up. -/
def refusal? (limits : Limits) (size : Nat) (steps : List String) : Option IoError :=
  if steps.any (fun step => step.toList.contains '\x00') then some .nulInPath
  else if limits.refusesPath size then some (.system .invalidFilename)
  else none

/-- Where a path starts: at the top, or in the current directory. -/
def start (v : Volume) (isAbsolute : Bool) : Place := if isAbsolute then .top else v.current

/-- The place to which steps lead from where a path starts, unless the path is refused. -/
def walkFrom (v : Volume) (p : Path) (steps : List String) : Except IoError Place :=
  match refusal? v.limits p.text.utf8ByteSize p.parts with
  | some e => .error e
  | none => v.walk (v.start p.isAbsolute) steps

/-- The place to which a path leads. -/
def resolve (v : Volume) (p : Path) : Except IoError Place :=
  if p.text = "" then .error (.system .notFound) else v.walkFrom p p.parts

/-- Whether a path leads to a directory. -/
def isDirectory (v : Volume) (p : Path) : Bool :=
  match v.resolve p with
  | .error _ => false
  | .ok place => v.hasDirectory place

/-! ## Files -/

/-- The bytes of a file. -/
def read (v : Volume) (p : Path) : Except IoError ByteArray :=
  match v.resolve p with
  | .error e => .error e
  | .ok place =>
    match v.entryAt? place with
    | none => .error (.system .notFound)
    | some .directory => .error (.system .isADirectory)
    | some (.file bytes) =>
      if p.asksDirectory then .error (.system .notADirectory) else .ok bytes

/-- The text of a file. -/
def readText (v : Volume) (p : Path) : Except IoError String :=
  match v.read p with
  | .error e => .error e
  | .ok bytes =>
    match String.fromUTF8? bytes with
    | none => .error .invalidUtf8
    | some text => .ok text

/-- The way to the directory of the last part of a path. -/
def wayToLast (p : Path) : List String := p.parts.dropLast ++ ["."]

/-- Gives a file new bytes; a file that does not exist is created.  The last part of a path that asks for a
directory is not looked at. -/
def write (v : Volume) (p : Path) (bytes : ByteArray) : Except IoError Unit × Volume :=
  match if p.asksDirectory then v.walkFrom p (wayToLast p) else v.resolve p with
  | .error e => (.error e, v)
  | .ok place =>
    if p.asksDirectory || v.hasDirectory place then
      (.error (.system .isADirectory), v)
    else
      let v' := v.put place (.file bytes)
      (.ok (), { v' with written := place :: v.written })

/-! ## Directories -/

/-- Why no directory can be created where a file is in the way: it is not a directory through which steps
could lead, or, at the last step, the name is in use.  As soon as a directory is missing, every step
becomes the last one in its turn. -/
def inTheWay (isCreating : Bool) (rest : List String) : IoErrorKind :=
  if isCreating || rest.isEmpty then .alreadyExists else .notADirectory

/-- Creates the directories to which steps lead from a place, as far as they do not exist. -/
def createDown (v : Volume) (place : Place) (isCreating : Bool) :
    List String → Except IoError Unit × Volume
  | [] => (.ok (), v)
  | step :: rest =>
    if !v.hasDirectory place then (.error (.system .notFound), v)
    else if step = "." then createDown v place isCreating rest
    else if step = ".." then createDown v place.above isCreating rest
    else if v.limits.refusesName step then (.error (.system .invalidFilename), v)
    else
      match v.entryAt? (place.below step) with
      | some .directory => createDown v (place.below step) isCreating rest
      | some (.file _) => (.error (.system (inTheWay isCreating rest)), v)
      | none => createDown (v.put (place.below step) .directory) (place.below step) true rest

/-- Creates the directories to which the steps of a path lead.  `size` is the number of bytes of the
path. -/
def createDirectories (v : Volume) (size : Nat) (isAbsolute : Bool) (steps : List String) :
    Except IoError Unit × Volume :=
  if steps = [] then (.ok (), v)
  else
    match refusal? v.limits size steps with
    | some e => (.error e, v)
    | none => v.createDown (v.start isAbsolute) false steps

/-- Creates the directories above what a path means. -/
def createParents (v : Volume) (p : Path) : Except IoError Unit × Volume :=
  match p.parentSteps? with
  | none => (.ok (), v)
  | some steps => v.createDirectories p.parentSize p.isAbsolute steps

/-- Creates the directory that a path means, and those above it.  A path that stays in place at its end
cannot create the directory in which it stays. -/
def makeDirectory (v : Volume) (p : Path) : Except IoError Unit × Volume :=
  if p.parts.getLast? = some "." then
    match v.walkFrom p p.parts with
    | .ok _ => (.ok (), v)
    | .error (.system .notFound) =>
      match v.createParents p with
      | (.error e, v') => (.error e, v')
      | (.ok (), v') => ((v'.walkFrom p p.parts).map (fun _ => ()), v')
    | .error e => (.error e, v)
  else v.createDirectories p.text.utf8ByteSize p.isAbsolute p.steps

/-! ## Trees -/

/-- Removes a directory with everything in it: it is emptied first and goes last.  Where the path leads
through something that went, the empty directory cannot be found again and stays; a path that stays in
place at its end cannot remove the directory in which it stays. -/
def removeDirectory (v : Volume) (p : Path) (place : Place) : Except IoError Unit × Volume :=
  let v' := v.eraseBelow place
  match v'.walkFrom p (wayToLast p) with
  | .error _ => (.ok (), v')
  | .ok _ =>
    if p.parts.getLast? = some "." then (.error (.system .invalidInput), v') else (.ok (), v'.erase place)

/-- Removes a file, or a directory with everything in it. -/
def remove (v : Volume) (p : Path) : Except IoError Unit × Volume :=
  match v.resolve p with
  | .error e => (.error e, v)
  | .ok place =>
    match v.entryAt? place with
    | none => (.error (.system .notFound), v)
    | some (.file _) =>
      if p.asksDirectory then (.error (.system .notADirectory), v) else (.ok (), v.erase place)
    | some .directory => v.removeDirectory p place

/-- The text of a place from one above it: a slash between names, and one at the end of a directory. -/
def placeText (upper place : Place) (entry : Entry) : String :=
  String.intercalate "/" (upper.namesFrom place) ++ (if entry.isDirectory then "/" else "")

/-- A line of a listing. -/
structure ListedEntry where
  text : String
  place : Place
  entry : Entry

/-- What a place below `upper` is listed as. -/
def listed? (upper : Place) (e : Place × Entry) : Option ListedEntry :=
  if e.1 ≠ upper && e.1.isWithin upper then some ⟨placeText upper e.1 e.2, e.1, e.2⟩ else none

/-- Everything below the current directory, in the order of the texts. -/
def listing (v : Volume) : List ListedEntry :=
  (v.entries.filterMap (listed? v.current)).mergeSort (fun a b => a.text ≤ b.text)

/-- An empty directory `name` at the top, which is the current one, under the usual limits. -/
def scratch (name : String) : Volume :=
  ⟨[(Place.top.below name, .directory)], Place.top.below name, [], .usual⟩

end Volume

end EntityAudit
