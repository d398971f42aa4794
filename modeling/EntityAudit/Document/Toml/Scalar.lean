import EntityAudit.Document.Toml.Text
import EntityAudit.Document.Toml.Value
import EntityAudit.Number.Digits

/-!
# `EntityAudit.Document.Toml.Scalar` — numbers, truth values and moments in TOML texts

A value that is not a string and has no parts is a run of characters up to a bracket, a comma, an equals
sign, a quote after white space, a comment or the end of the line.  White space inside a run belongs to it,
white space at its end does not.  The form of a run says what it is.  The form of a decimal integer with
separators only asks for digits next to the separators, so a run may be an integer and yet spell no number.

## Contents

* `areSeparated`, `unseparated?` — separators between digits
* `integerIn?`, `decimalInteger?`, `real?` — numbers
* `isDate`, `isTime`, `isMoment` — dates and times
* `scalar?`, `splitRun`, `scanScalar?` — the value of a run
-/

namespace EntityAudit.Toml

/-! ## Separators -/

/-- Whether a text begins with a character of a kind. -/
def beginsWith (p : Char → Bool) (cs : List Char) : Bool := cs.head?.any p

/-- Whether a text ends with a character of a kind. -/
def endsWith (p : Char → Bool) (cs : List Char) : Bool := cs.getLast?.any p

/-- Whether separators stand between digits, given the parts of a text that they separate. -/
def areSeparated (isDigit : Char → Bool) : List (List Char) → Bool
  | part :: next :: rest =>
    endsWith isDigit part && beginsWith isDigit next && areSeparated isDigit (next :: rest)
  | _ => true

/-- A text without its separators, if they stand between digits. -/
def unseparated? (isDigit : Char → Bool) (cs : List Char) : Option (List Char) :=
  let parts := cs.splitOn '_'
  if areSeparated isDigit parts then some parts.flatten else none

/-- The sign in front of a number: whether it is a minus, and what follows it. -/
def signOf : List Char → Bool × List Char
  | '+' :: rest => (false, rest)
  | '-' :: rest => (true, rest)
  | cs => (false, cs)

/-! ## Integers -/

/-- A digit in any base. -/
def isAnyDigit (c : Char) : Bool := (digitValue? 16 c).isSome

/-- The number that digits spell, if there are digits and nothing else. -/
def spelled? (base : Nat) (cs : List Char) : Option Nat := if cs = [] then none else numberOf? base cs

/-- The integer that a sign and decimal digits spell. -/
def signed? (cs : List Char) : Option Int :=
  let (isNegative, unsigned) := signOf cs
  (spelled? 10 unsigned).map (fun n => if isNegative then -(n : Int) else n)

/-- An integer in the base that a letter names, without the zero and the letter. -/
def integerIn? (base : Nat) (cs : List Char) : Option Value :=
  if cs.all (fun c => c = '_' || (digitValue? base c).isSome) then
    (unseparated? isAnyDigit cs).map (fun digits => .integer ((spelled? base digits).map Int.ofNat))
  else none

/-- A decimal integer, with and without its sign.  It does not begin with a zero, unless that is all of
it. -/
def decimalInteger? (run unsigned : List Char) : Option Value :=
  if beginsWith (· = '0') unsigned && unsigned ≠ ['0'] then none
  else (unseparated? isAnyDigit run).map (fun digits => .integer (signed? digits))

/-! ## Floating-point numbers -/

/-- A decimal digit or a separator. -/
def isDecimalChar (c : Char) : Bool := c.isDigit || c = '_'

/-- The digits at the beginning of a text, of which there is at least one, and what follows them.  Unless
they may be `padded`, the first of several digits is not a zero. -/
def splitDigits? (padded : Bool) (cs : List Char) : Option (List Char × List Char) :=
  let digits := (cs.takeWhile isDecimalChar).filter Char.isDigit
  if digits = [] || (!padded && 1 < digits.length && beginsWith (· = '0') cs) then none
  else some (digits, cs.dropWhile isDecimalChar)

/-- The digits after the point, if there is a point. -/
def splitFraction? : List Char → Option (List Char × List Char)
  | '.' :: rest => splitDigits? true rest
  | cs => some ([], cs)

/-- The exponent, if there is one. -/
def splitExponent? : List Char → Option (Int × List Char)
  | [] => some (0, [])
  | c :: cs =>
    if c = 'e' ∨ c = 'E' then
      let (isNegative, unsigned) := signOf cs
      (splitDigits? true unsigned).map
        (fun (digits, rest) =>
          let n : Int := (numberOf? 10 digits).getD 0
          (if isNegative then -n else n, rest))
    else some (0, c :: cs)

/-- The number nearest to a decimal, from its digits before and after the point and its exponent. -/
def decimalValue (isNegative : Bool) (whole fraction : List Char) (exponent : Int) : Value :=
  let digits := (numberOf? 10 (whole ++ fraction)).getD 0
  .real ((Magnitude.ofDecimal? digits (exponent - fraction.length)).map (.finite isNegative))

/-- A floating-point number, with and without its sign. -/
def real? (run : List Char) (isNegative : Bool) (unsigned : List Char) : Option Value :=
  match splitDigits? false unsigned with
  | none => none
  | some (whole, afterWhole) =>
    match splitFraction? afterWhole with
    | none => none
    | some (fraction, afterFraction) =>
      match splitExponent? afterFraction with
      | some (exponent, []) =>
        (unseparated? Char.isDigit run).map (fun _ => decimalValue isNegative whole fraction exponent)
      | _ => none

/-! ## Moments -/

/-- A text up to the first character of a kind, and what follows that character, if there is one. -/
def splitFirst (p : Char → Bool) (cs : List Char) : List Char × Option (List Char) :=
  match cs.dropWhile (fun c => !p c) with
  | [] => (cs, none)
  | _ :: rest => (cs.takeWhile (fun c => !p c), some rest)

/-- The number that exactly `count` digits spell. -/
def fixedDigits? (count : Nat) (cs : List Char) : Option Nat :=
  if cs.length = count then numberOf? 10 cs else none

/-- Whether a year has a 29th of February. -/
def isLeapYear (year : Nat) : Bool := year % 4 == 0 && (year % 100 != 0 || year % 400 == 0)

/-- The number of days of a month. -/
def daysOf (year month : Nat) : Nat :=
  if month = 2 then (if isLeapYear year then 29 else 28)
  else if month = 4 ∨ month = 6 ∨ month = 9 ∨ month = 11 then 30
  else 31

/-- Whether a text is a date, such as `2000-02-29`. -/
def isDate (cs : List Char) : Bool :=
  match cs.splitOn '-' with
  | [y, m, d] =>
    match fixedDigits? 4 y, fixedDigits? 2 m, fixedDigits? 2 d with
    | some year, some month, some day => 1 ≤ month && month ≤ 12 && 1 ≤ day && day ≤ daysOf year month
    | _, _, _ => false
  | _ => false

/-- Whether a text is a number of `count` digits that is not greater than `most`. -/
def isUpTo (count most : Nat) (cs : List Char) : Bool :=
  match fixedDigits? count cs with
  | some n => n ≤ most
  | none => false

/-- Whether a text is a number of seconds, with or without a fraction. -/
def isSeconds (cs : List Char) : Bool :=
  match splitFirst (· = '.') cs with
  | (whole, none) => isUpTo 2 60 whole
  | (whole, some fraction) => isUpTo 2 60 whole && !fraction.isEmpty && fraction.all Char.isDigit

/-- Whether a text is a time of day, such as `23:59` or `23:59:59.9`. -/
def isTime (cs : List Char) : Bool :=
  match cs.splitOn ':' with
  | [h, m] => isUpTo 2 23 h && isUpTo 2 59 m
  | [h, m, s] => isUpTo 2 23 h && isUpTo 2 59 m && isSeconds s
  | _ => false

/-- Whether a text is an offset from universal time, after its sign. -/
def isOffset (cs : List Char) : Bool :=
  match cs.splitOn ':' with
  | [h, m] => isUpTo 2 23 h && isUpTo 2 59 m
  | _ => false

/-- Whether a text is a time of day with or without an offset from universal time. -/
def isOffsetTime (cs : List Char) : Bool :=
  match cs.getLast? with
  | some 'Z' | some 'z' => isTime cs.dropLast
  | _ =>
    match splitFirst (fun c => c = '+' || c = '-') cs with
    | (time, none) => isTime time
    | (time, some offset) => isTime time && isOffset offset

/-- Whether a text is a date, a time of day, or a date and a time with a separator between them. -/
def isMoment (cs : List Char) : Bool :=
  isTime cs || isDate cs ||
    (isDate (cs.take 10) &&
      match cs.drop 10 with
      | c :: time => (c = 'T' || c = 't' || c = ' ') && isOffsetTime time
      | [] => false)

/-! ## Runs -/

/-- The value of a run that is a decimal number or a moment, by what follows its first digits.  Only a moment
has a space in it. -/
def numeral? (run : List Char) (isNegative : Bool) (unsigned : List Char) : Option Value :=
  match unsigned.dropWhile Char.isDigit with
  | [] => if unsigned = [] then none else decimalInteger? run unsigned
  | c :: rest =>
    if c = '-' ∨ c = ':' then (if isMoment run then some .moment else none)
    else if (c :: rest).contains ' ' then none
    else if (c :: rest).any (fun d => d = '.' || d = 'e' || d = 'E') then real? run isNegative unsigned
    else if c = '_' then decimalInteger? run unsigned
    else none

/-- The value of a run. -/
def scalar? (run : List Char) : Option Value :=
  if run = "true".toList then some (.boolean true)
  else if run = "false".toList then some (.boolean false)
  else
    match run with
    | '0' :: 'x' :: digits => integerIn? 16 digits
    | '0' :: 'o' :: digits => integerIn? 8 digits
    | '0' :: 'b' :: digits => integerIn? 2 digits
    | _ =>
      let (isNegative, unsigned) := signOf run
      if unsigned = "inf".toList then some (.real (some (.infinite isNegative)))
      else if unsigned = "nan".toList then some (.real (some .undefined))
      else numeral? run isNegative unsigned

/-- The characters that no run has. -/
def runEnds : List Char := ['\n', '\r', '#', '=', ',', '[', ']', '\x7b', '\x7d']

/-- A character that goes on with a run.  After white space a quote begins a string instead. -/
def isRunChar (afterBlank : Bool) (c : Char) : Bool :=
  !runEnds.contains c && !(afterBlank && (c = '"' || c = '\x27'))

/-- A run and what follows it, from the run so far and the white space after it, both backwards. -/
def splitRunFrom (run blanks : List Char) : List Char → List Char × List Char
  | [] => (run.reverse, blanks.reverse)
  | c :: cs =>
    if isBlank c then splitRunFrom run (c :: blanks) cs
    else if isRunChar (!blanks.isEmpty) c then splitRunFrom (c :: (blanks ++ run)) [] cs
    else (run.reverse, blanks.reverse ++ c :: cs)

/-- The run at the beginning of a text, and what follows it. -/
def splitRun (cs : List Char) : List Char × List Char := splitRunFrom [] [] cs

/-- The value of the run at the beginning of a text, and what follows it. -/
def scanScalar? (cs : List Char) : Option (Value × List Char) :=
  let (run, rest) := splitRun cs
  (scalar? run).map (fun v => (v, rest))

end EntityAudit.Toml
