import EntityAudit.Unicode.Extending
import EntityAudit.Unicode.Invisible
import EntityAudit.Unicode.Range

/-!
# `EntityAudit.Unicode.Quoted` — a text in quotes, with nothing hidden in it

Messages quote a text so that every character of it can be seen: a quote and a backslash get a backslash,
four controls have a letter of their own, and whatever would not show, or would merge with its
neighbour, is written by its code point.

## Contents

* `fillers`, `spacingExtenders`, `isHidden` — the characters that could be overlooked
* `hexDigits` — a number in hexadecimal
* `escapeVisible` — one character
* `quoted` — a text in double quotes
-/

namespace EntityAudit.Unicode

/-- Letters that show nothing: the fillers of Hangul. -/
def fillers : List Char := ['\u115F', '\u1160', '\u3164', '\uFFA0']

/-- Characters that extend the one before them and yet have a place of their own: the halfwidth sound marks
of Katakana. -/
def spacingExtenders : List Char := ['\uFF9E', '\uFF9F']

/-- Whether a character does not show or merges with its neighbour. -/
def isHidden (c : Char) : Bool :=
  (inRanges c graphemeExtendRanges && !spacingExtenders.contains c) || inRanges c invisibleRanges
    || fillers.contains c

/-- A number in lowercase hexadecimal, without leading zeros. -/
def hexDigits (n : Nat) : List Char := Nat.toDigits 16 n

/-- How a character is written between quotes. -/
def escapeVisible (c : Char) : List Char :=
  if c = '\x00' then ['\\', '0']
  else if c = '\t' then ['\\', 't']
  else if c = '\r' then ['\\', 'r']
  else if c = '\n' then ['\\', 'n']
  else if c = '"' then ['\\', '"']
  else if c = '\\' then ['\\', '\\']
  else if c = ' ' then [c]
  else if isHidden c then
    ['\\', 'u', '\x7b'] ++ hexDigits c.toNat ++ ['\x7d']
  else [c]

/-- A text in double quotes. -/
def quoted (s : String) : String :=
  String.ofList ('"' :: s.toList.flatMap escapeVisible ++ ['"'])

end EntityAudit.Unicode
