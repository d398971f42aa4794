import EntityAudit.Number.Digits

/-!
# `EntityAudit.Document.Toml.Text` — strings in TOML texts

A basic string stands between double quotes and has escapes; a literal string stands between single
quotes and means what it shows.  Either may be long: it stands between three quotes and may have line
breaks, of which one right at the beginning does not count.  In a long basic string a backslash at the
end of a line takes the break and all white space after it away.

## Contents

* `isTextChar` — the characters that a text shows as they are
* `splitBasic?`, `splitLiteral?`, `splitLong?` — where a string ends
* `areTextLines`, `unescape?` — what stands between the quotes
* `scanLine?`, `scanText?` — a string of one line, and any string
-/

namespace EntityAudit.Toml

/-- A space or a tab. -/
def isBlank (c : Char) : Bool := c = ' ' || c = '\t'

/-- Any character but a control character, of which only the tab is shown. -/
def isTextChar (c : Char) : Bool := c = '\t' || (0x20 ≤ c.toNat && c.toNat ≠ 0x7F)

/-! ## Where a string ends -/

/-- Puts characters in front of what stands between quotes. -/
def withFront (cs : List Char) (r : List Char × List Char) : List Char × List Char := (cs ++ r.1, r.2)

/-- What stands before the closing double quote, and what follows it. -/
def splitBasic? : List Char → Option (List Char × List Char)
  | [] => none
  | '"' :: rest => some ([], rest)
  | '\\' :: c :: rest => (splitBasic? rest).map (withFront ['\\', c])
  | c :: rest => (splitBasic? rest).map (withFront [c])

/-- What stands before the closing single quote, and what follows it. -/
def splitLiteral? : List Char → Option (List Char × List Char)
  | [] => none
  | '\x27' :: rest => some ([], rest)
  | c :: rest => (splitLiteral? rest).map (withFront [c])

/-- What stands before three closing quotes, and what follows them.  Up to two more quotes belong to the
string. -/
def splitLong? (quote : Char) (hasEscapes : Bool) : List Char → Option (List Char × List Char)
  | [] => none
  | [_] => none
  | c :: d :: rest =>
    if hasEscapes && c = '\\' then (splitLong? quote hasEscapes rest).map (withFront [c, d])
    else if c = quote && d = quote && rest.head? = some quote then
      let more := ((rest.drop 1).take 2).takeWhile (· = quote)
      some (more, rest.drop (1 + more.length))
    else (splitLong? quote hasEscapes (d :: rest)).map (withFront [c])

/-! ## What stands between the quotes -/

/-- Whether the lines of a long string have no control characters.  A carriage return only stands before a
line feed. -/
def areTextLines : List Char → Bool
  | [] => true
  | '\r' :: '\n' :: rest => areTextLines rest
  | c :: rest => (isTextChar c || c = '\n') && areTextLines rest

/-- A long string without the line break right at its beginning. -/
def dropFirstBreak : List Char → List Char
  | '\n' :: rest => rest
  | '\r' :: '\n' :: rest => rest
  | cs => cs

/-- What a letter after a backslash stands for. -/
def shortEscape? (c : Char) : Option Char :=
  if c = '"' ∨ c = '\\' then some c
  else if c = 'b' then some '\x08'
  else if c = 't' then some '\t'
  else if c = 'n' then some '\n'
  else if c = 'f' then some '\x0c'
  else if c = 'r' then some '\r'
  else if c = 'e' then some '\x1b'
  else none

/-- The character whose code point hexadecimal digits spell. -/
def codePoint? (digits : List Char) : Option Char :=
  match numberOf? 16 digits with
  | none => none
  | some n => if n.isValidChar then some (Char.ofNat n) else none

/-- A character in front of a text, if there are both. -/
def consText (c : Option Char) (text : Option (List Char)) : Option (List Char) :=
  match c, text with
  | some c, some text => some (c :: text)
  | _, _ => none

/-- How far a backslash at the end of a line has been followed. -/
inductive Joining where
  | within
  /-- The line break must come. -/
  | beforeBreak
  | afterBreak
deriving DecidableEq, Repr

/-- A character of a line break. -/
def isBreakChar (c : Char) : Bool := c = '\n' || c = '\r'

/-- The text for which characters and escapes stand.  A backslash at the end of a line takes the break and
all white space after it away. -/
def unescape? : Joining → List Char → Option (List Char)
  | .beforeBreak, [] => none
  | _, [] => some []
  | .beforeBreak, c :: rest =>
    if isBreakChar c then unescape? .afterBreak rest
    else if isBlank c then unescape? .beforeBreak rest
    else none
  | _, '\\' :: 'x' :: a :: b :: rest => consText (codePoint? [a, b]) (unescape? .within rest)
  | _, '\\' :: 'u' :: a :: b :: c :: d :: rest =>
    consText (codePoint? [a, b, c, d]) (unescape? .within rest)
  | _, '\\' :: 'U' :: s :: t :: u :: v :: a :: b :: c :: d :: rest =>
    consText (codePoint? [s, t, u, v, a, b, c, d]) (unescape? .within rest)
  | _, '\\' :: c :: rest =>
    if isBreakChar c then unescape? .afterBreak rest
    else if isBlank c then unescape? .beforeBreak rest
    else consText (shortEscape? c) (unescape? .within rest)
  | joining, c :: rest =>
    if joining = .afterBreak && (isBlank c || isBreakChar c) then unescape? .afterBreak rest
    else (unescape? .within rest).map (c :: ·)

/-! ## Strings -/

/-- The text of a basic string of one line. -/
def basicText? (body : List Char) : Option (List Char) :=
  if body.all isTextChar then unescape? .within body else none

/-- The text of a literal string of one line. -/
def literalText? (body : List Char) : Option (List Char) :=
  if body.all isTextChar then some body else none

/-- What stands between the quotes of a long string, without a break at the beginning. -/
def longBody? (body : List Char) : Option (List Char) :=
  if areTextLines body then some (dropFirstBreak body) else none

/-- A text and what follows it, from what stands between the quotes. -/
def readBody (toText : List Char → Option (List Char)) (r : List Char × List Char) :
    Option (String × List Char) :=
  (toText r.1).map (fun text => (String.ofList text, r.2))

/-- A string of one line at the beginning of a text. -/
def scanLine? : List Char → Option (String × List Char)
  | '"' :: rest => (splitBasic? rest).bind (readBody basicText?)
  | '\x27' :: rest => (splitLiteral? rest).bind (readBody literalText?)
  | _ => none

/-- A string at the beginning of a text. -/
def scanText? : List Char → Option (String × List Char)
  | '"' :: '"' :: '"' :: rest =>
    (splitLong? '"' true rest).bind
      (readBody (fun body => (longBody? body).bind (unescape? .within)))
  | '\x27' :: '\x27' :: '\x27' :: rest => (splitLong? '\x27' false rest).bind (readBody longBody?)
  | cs => scanLine? cs

end EntityAudit.Toml
