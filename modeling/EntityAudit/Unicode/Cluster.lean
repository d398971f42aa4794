import EntityAudit.Unicode.ClusterClass
import EntityAudit.Unicode.Extending
import EntityAudit.Unicode.Range

/-!
# `EntityAudit.Unicode.Cluster` — what a reader takes for one character

A text is cut into extended grapheme clusters: a letter with its marks, a Hangul syllable, a flag, a
joined emoji.  Whether two neighbours stay together depends on their classes and on three facts about
what precedes them, which `Context` carries along.

## Contents

* `ClusterClass`, `clusterClass` — the classes
* `Context`, `Context.joins`, `Context.after` — the rule for one pair of neighbours
* `clusters` — the clusters of a text
-/

namespace EntityAudit.Unicode

/-! ## Classes -/

/-- The classes of characters that the rule distinguishes. -/
inductive ClusterClass where
  | carriageReturn
  | lineFeed
  | control
  | extending
  | zeroWidthJoiner
  | spacingMark
  | prepended
  | regionalIndicator
  | leadingJamo
  | vowelJamo
  | trailingJamo
  | openSyllable
  | closedSyllable
  | pictograph
  | other
deriving DecidableEq, Repr

/-- The class of a character.  A precomposed Hangul syllable is open when it has no trailing consonant,
which is every 28th of them; the skin tones extend although they are symbols. -/
def clusterClass (c : Char) : ClusterClass :=
  let n := c.toNat
  if n = 0x0D then .carriageReturn
  else if n = 0x0A then .lineFeed
  else if n = 0x200D then .zeroWidthJoiner
  else if inRanges c controlRanges then .control
  else if n < 0x80 then .other
  else if inRanges c graphemeExtendRanges || (0x1F3FB ≤ n && n ≤ 0x1F3FF) then .extending
  else if inRanges c spacingMarkRanges then .spacingMark
  else if inRanges c prependRanges then .prepended
  else if 0x1F1E6 ≤ n && n ≤ 0x1F1FF then .regionalIndicator
  else if inRanges c leadingJamoRanges then .leadingJamo
  else if inRanges c vowelJamoRanges then .vowelJamo
  else if inRanges c trailingJamoRanges then .trailingJamo
  else if 0xAC00 ≤ n && n ≤ 0xD7A3 then
    if (n - 0xAC00) % 28 = 0 then .openSyllable else .closedSyllable
  else if inRanges c pictographRanges then .pictograph
  else .other

/-! ## The rule -/

/-- How far a conjunct of consonants has come: a consonant, or a consonant and a linking sign. -/
inductive Conjunct where
  | none
  | consonant
  | linked
deriving DecidableEq, Repr

/-- What is known of the text before a place where it may be cut: the class of the last character, if
there is one; whether it ends an odd run of regional indicators; whether it ends a pictograph with the
characters that extend it and at most one joiner after them; and the state of a conjunct. -/
structure Context where
  last : Option ClusterClass
  oddIndicator : Bool
  inPictograph : Bool
  conjunct : Conjunct

/-- Nothing precedes. -/
def Context.start : Context := ⟨none, false, false, .none⟩

/-- The context after one more character. -/
def Context.after (ctx : Context) (c : Char) : Context :=
  let k := clusterClass c
  { last := some k
    oddIndicator := k == .regionalIndicator && !ctx.oddIndicator
    inPictograph := k == .pictograph || (ctx.inPictograph && ctx.last != some .zeroWidthJoiner
      && (k == .extending || k == .zeroWidthJoiner))
    conjunct :=
      if inRanges c conjunctConsonantRanges then .consonant
      else if ctx.conjunct == .none then .none
      else if inRanges c conjunctLinkerRanges then .linked
      else if k == .zeroWidthJoiner || (k == .extending && c.toNat != 0x200C) then ctx.conjunct
      else .none }

/-- Whether a character of class `next` stays with the character of class `last` before it, by their
classes alone. -/
def pairJoins : ClusterClass → ClusterClass → Bool
  | .carriageReturn, next => next == .lineFeed
  | .lineFeed, _ | .control, _ => false
  | last, next =>
    match next with
    | .carriageReturn | .lineFeed | .control => false
    | .extending | .zeroWidthJoiner | .spacingMark => true
    | .leadingJamo | .openSyllable | .closedSyllable => last == .prepended || last == .leadingJamo
    | .vowelJamo =>
      last == .prepended || last == .leadingJamo || last == .openSyllable || last == .vowelJamo
    | .trailingJamo =>
      last == .prepended || last == .openSyllable || last == .vowelJamo || last == .closedSyllable
        || last == .trailingJamo
    | _ => last == .prepended

/-- Whether a character stays with the text before it. -/
def Context.joins (ctx : Context) (c : Char) : Bool :=
  match ctx.last with
  | none => false
  | some last =>
    let next := clusterClass c
    pairJoins last next
      || (ctx.conjunct == .linked && inRanges c conjunctConsonantRanges)
      || (ctx.inPictograph && last == .zeroWidthJoiner && next == .pictograph)
      || (ctx.oddIndicator && next == .regionalIndicator)

/-! ## Texts -/

/-- The clusters of a text that is preceded by an unfinished cluster, whose characters are given with the
latest first. -/
def clustersFrom (ctx : Context) (current : List Char) : List Char → List (List Char)
  | [] => if current.isEmpty then [] else [current.reverse]
  | c :: rest =>
    if current.isEmpty || ctx.joins c then clustersFrom (ctx.after c) (c :: current) rest
    else current.reverse :: clustersFrom (ctx.after c) [c] rest

/-- The extended grapheme clusters of a text. -/
def clusters (cs : List Char) : List (List Char) := clustersFrom .start [] cs

end EntityAudit.Unicode
