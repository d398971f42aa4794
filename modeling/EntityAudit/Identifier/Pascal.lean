import EntityAudit.Identifier.Forms
import EntityAudit.Unicode.Cluster

/-!
# `EntityAudit.Identifier.Pascal` — whether a type name reads as one

A type name is expected to consist of capitalized words with nothing between them.  The words are found
by looking at the clusters of the name: a separator ends a word and is dropped, and a word also ends
where a small letter, a capital and a digit follow each other in certain ways.

## Contents

* `LetterKind`, `letterKind` — what a cluster counts as
* `wordEnds` — whether a word ends between two clusters
* `pascalWords`, `pascal` — the words and the expected spelling
* `isPascal` — whether a name has the expected spelling
-/

namespace EntityAudit.Identifier

/-- What a cluster counts as in the search for words. -/
inductive LetterKind where
  | separator
  | small
  | capital
  | digit
  | other
deriving DecidableEq, Repr

/-- A cluster is a capital or small letter when the full case mappings tell its two spellings apart and
it is one of them; it is a digit when it consists of ASCII digits. -/
def letterKind (cluster : List Char) : LetterKind :=
  if cluster = ['_'] || cluster = ['-'] || cluster = [' '] then .separator
  else if cluster.all Char.isDigit then .digit
  else
    let small := Unicode.lower cluster
    let capital := cluster.flatMap Unicode.upperChar
    if small = capital then .other
    else if cluster = capital then .capital
    else if cluster = small then .small
    else .other

/-- Whether a word ends between two clusters, given the kind of the one after them.  The last of several
capitals belongs to the small letters that follow it. -/
def wordEnds : LetterKind → LetterKind → Option LetterKind → Bool
  | .small, .capital, _ | .small, .digit, _ | .capital, .digit, _ => true
  | .digit, .small, _ | .digit, .capital, _ => true
  | .capital, .capital, some .small => true
  | _, _, _ => false

/-- The words of a sequence of clusters; some may be empty. -/
def clusterWords : List (List Char) → List (List Char)
  | [] => []
  | [g] => if letterKind g = .separator then [[]] else [g]
  | g :: h :: rest =>
    if letterKind g = .separator then [] :: clusterWords (h :: rest)
    else if letterKind h = .separator
        || wordEnds (letterKind g) (letterKind h) (rest.head?.map letterKind) then
      g :: clusterWords (h :: rest)
    else
      match clusterWords (h :: rest) with
      | [] => [g]
      | w :: ws => (g ++ w) :: ws

/-- The words of a name. -/
def pascalWords (cs : List Char) : List (List Char) :=
  (clusterWords (Unicode.clusters cs)).filter (· ≠ [])

/-- A word with its first character in uppercase and the others in lowercase. -/
def pascalWord : List Char → List Char
  | [] => []
  | c :: rest => Unicode.upperChar c ++ Unicode.lower rest

/-- The expected spelling of a name. -/
def pascal (s : String) : String :=
  String.ofList ((pascalWords s.toList).flatMap pascalWord)

/-- Whether a name is not empty and has the expected spelling. -/
def isPascal (s : String) : Bool := s ≠ "" && pascal s = s

end EntityAudit.Identifier
