/-!
# Places in a YAML text

A cursor is the text that is still to be read, with the line and column it starts at. The end of the
text counts as the end of a line.
-/

namespace NetSession.Yaml

/-- Why a text is no YAML document. -/
inductive Fault where
  /-- A character must not occur in a document. -/
  | forbiddenCharacter
  /-- A character starts no token. -/
  | unexpectedCharacter
  /-- An entry, key or value stands where the line does not allow one. -/
  | misplacedIndicator
  /-- A key is not followed by its colon. -/
  | missingColon
  /-- A directive is malformed, unknown or repeated. -/
  | badDirective
  /-- The document declares a version that is not supported. -/
  | unsupportedVersion
  /-- An anchor, alias or tag is malformed. -/
  | badProperty
  /-- A tag uses a handle that no directive declares. -/
  | unknownHandle
  /-- A quoted text is not closed, or a document ends inside it. -/
  | unclosedQuote
  /-- An escape sequence is malformed. -/
  | badEscape
  /-- The header of a block text is malformed. -/
  | badBlockHeader
  /-- A tab stands in an indentation. -/
  | tabIndentation
  /-- A token stands where another is needed. -/
  | unexpectedToken
  /-- An alias names no anchor before it. -/
  | unknownAnchor
  /-- A second document follows. -/
  | severalDocuments
  deriving DecidableEq, Repr

/-- Whether a character may occur in a document. -/
def isAllowed (c : Char) : Bool :=
  let n := c.toNat
  n == 9 || n == 10 || n == 13 || (0x20 ≤ n && n ≤ 0x7E) || n == 0x85
    || (0xA0 ≤ n && n ≤ 0xD7FF) || (0xE000 ≤ n && n ≤ 0xFFFD) || 0x10000 ≤ n

/-- Spaces and tabs. -/
def isSpace (c : Char) : Bool := c == ' ' || c == '\t'

/-- Characters that end a line. -/
def isBreak (c : Char) : Bool :=
  c == '\n' || c == '\r' || c == '\u0085' || c == '\u2028' || c == '\u2029'

/-- Characters of names. -/
def isNameChar (c : Char) : Bool := c.isAlphanum || c == '_' || c == '-'

/-- Whether what comes next ends a line. -/
def endsLine (next : Option Char) : Bool := next.all isBreak

/-- Whether what comes next ends a word. -/
def endsWord (next : Option Char) : Bool := next.all fun c => isSpace c || isBreak c

/-- The value of a hexadecimal digit. -/
def hexDigit? (c : Char) : Option Nat :=
  if '0' ≤ c ∧ c ≤ '9' then some (c.toNat - '0'.toNat)
  else if 'a' ≤ c ∧ c ≤ 'f' then some (c.toNat - 'a'.toNat + 10)
  else if 'A' ≤ c ∧ c ≤ 'F' then some (c.toNat - 'A'.toNat + 10)
  else none

/-- The value of hexadecimal digits. -/
def hexValue? (digits : List Char) : Option Nat :=
  digits.foldlM (fun value c => (hexDigit? c).map (value * 16 + ·)) 0

/-- The number of bytes of characters. -/
def byteCount (text : List Char) : Nat := text.foldl (fun n c => n + c.utf8Size) 0

/-- A place in a text. -/
structure Cursor where
  /-- What is still to be read. -/
  rest : List Char
  /-- How many bytes were read. -/
  index : Nat
  /-- How many lines were read. -/
  line : Nat
  /-- How many characters of the line were read. -/
  column : Nat
  deriving DecidableEq, Repr

namespace Cursor

/-- The start of a text. -/
def ofText (text : List Char) : Cursor := ⟨text, 0, 0, 0⟩

/-- The next character. -/
def next? (c : Cursor) : Option Char := c.rest.head?

/-- The character `n` places ahead. -/
def ahead? (c : Cursor) (n : Nat) : Option Char := c.rest[n]?

/-- Whether a character comes next. -/
def isAt (c : Cursor) (char : Char) : Bool := c.next? == some char

/-- Whether a character of a class comes next. -/
def isAtAny (c : Cursor) (p : Char → Bool) : Bool := c.next?.any p

/-- The place `n` characters ahead in the same line. -/
def skip (c : Cursor) (n : Nat) : Cursor :=
  { c with
    rest := c.rest.drop n
    index := c.index + byteCount (c.rest.take n)
    column := c.column + n }

/-- Skips a byte order mark at the start of a line, if one comes next. It counts as a column. -/
def skipByteOrderMark (c : Cursor) : Cursor :=
  if c.column = 0 ∧ c.isAt '\uFEFF' then c.skip 1 else c

/-- Takes the longest run of characters of a class without line breaks. -/
def takeWhile (c : Cursor) (p : Char → Bool) : List Char × Cursor :=
  let taken := c.rest.takeWhile p
  (taken, c.skip taken.length)

/-- Skips the longest run of characters of a class without line breaks. -/
def skipWhile (c : Cursor) (p : Char → Bool) : Cursor := (c.takeWhile p).2

/-- Skips a comment, if one comes next. -/
def skipComment (c : Cursor) : Cursor := if c.isAt '#' then c.skipWhile (!isBreak ·) else c

/-- Takes a line break, if one comes next. Every break reads as a newline, except the line and
paragraph separators, which read as themselves. -/
def takeBreak (c : Cursor) : List Char × Cursor :=
  let after (n : Nat) (rest : List Char) : Cursor := ⟨rest, c.index + n, c.line + 1, 0⟩
  match c.rest with
  | '\r' :: '\n' :: rest => (['\n'], after 2 rest)
  | char :: rest =>
    if char = '\n' ∨ char = '\r' ∨ char = '\u0085' then (['\n'], after char.utf8Size rest)
    else if isBreak char then ([char], after char.utf8Size rest)
    else ([], c)
  | [] => ([], c)

/-- Skips a line break, if one comes next. -/
def skipBreak (c : Cursor) : Cursor := c.takeBreak.2

/-- Whether a line starts here with three times the same mark and nothing attached to it. -/
def isAtMark (c : Cursor) (mark : Char) : Bool :=
  c.column == 0 && c.rest.take 3 == [mark, mark, mark] && endsWord (c.ahead? 3)

/-- Whether a document starts or ends here. -/
def isAtBoundary (c : Cursor) : Bool := c.isAtMark '-' || c.isAtMark '.'

end Cursor

end NetSession.Yaml
