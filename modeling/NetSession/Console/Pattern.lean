import NetSession.Text.Alphanumeric
import NetSession.Text.Blank

/-!
# Patterns

Which texts are patterns that the value of a field can be compared with: regular expressions of
literals, dots, bracketed classes, groups, alternatives, repetitions and assertions. Nothing that
this program says is ever compared with one, so only their form is here.

A pattern stands inside braces and between commas, so it never has a closing brace, and what would
need one is refused. So is what would need tables of characters: letter case outside ASCII, classes
of all letters, digits or blanks, and the borders of words, unless bytes are read (`(?-u)`); and
there what could match half a character is refused.
-/

namespace NetSession.Console.Pattern

/-- How a part of a pattern is read. -/
structure Mode where
  /-- Whether blanks and comments are passed over. -/
  spaced : Bool := false
  /-- Whether upper and lower case are alike. -/
  folded : Bool := false
  /-- Whether bytes are read instead of characters. -/
  bytes : Bool := false
  deriving DecidableEq, Repr

namespace Mode

/-- The mode with a flag switched on or off. -/
def set (mode : Mode) (flag : Char) (on : Bool) : Mode :=
  match flag with
  | 'x' => { mode with spaced := on }
  | 'i' => { mode with folded := on }
  | 'u' => { mode with bytes := !on }
  | _ => mode

/-- Whether letter case can be told: there is a table of it for bytes only. -/
def hasCase (mode : Mode) : Bool := mode.bytes || !mode.folded

end Mode

/-- Skips blanks and comments where they are passed over. A comment ends with its line. -/
def skipBlanks (mode : Mode) (text : List Char) : List Char :=
  if mode.spaced then skip false text else text
where
  /-- Skips blanks and comments, from inside of a comment or outside. -/
  skip (commented : Bool) : List Char → List Char
    | [] => []
    | c :: rest =>
      if commented then skip (c != '\n') rest
      else if c = '#' then skip true rest
      else if Text.isBlank c then skip false rest
      else c :: rest

/-! ## Escape sequences -/

/-- What an escape sequence stands for. -/
inductive Atom where
  /-- A character; `octet` says that it was written as a byte. -/
  | literal (c : Char) (octet : Bool)
  /-- A class of characters. -/
  | shorthand
  /-- A place between characters. -/
  | assertion
  deriving DecidableEq, Repr

/-- Reads hexadecimal digits, `value` being that of the ones before. -/
def readHex (mode : Mode) : Nat → Nat → List Char → Option (Nat × List Char)
  | 0, value, text => some (value, text)
  | digits + 1, value, text =>
    match skipBlanks mode text with
    | [] => none
    | c :: rest =>
      if '0' ≤ c ∧ c ≤ '9' then readHex mode digits (value * 16 + (c.toNat - '0'.toNat)) rest
      else if 'a' ≤ c.toLower ∧ c.toLower ≤ 'f' then
        readHex mode digits (value * 16 + (c.toLower.toNat - 'a'.toNat + 10)) rest
      else none

/-- The number of hexadecimal digits behind a letter. -/
def hexLength? : Char → Option Nat
  | 'x' => some 2
  | 'u' => some 4
  | 'U' => some 8
  | _ => none

/-- Reads the escape sequence behind a backslash. -/
def readEscape (mode : Mode) : List Char → Option (Atom × List Char)
  | [] => none
  | c :: rest =>
    match hexLength? c with
    | some digits => do
      let (value, rest) ← readHex mode digits 0 rest
      if value.isValidChar then return (.literal (Char.ofNat value) (c = 'x'), rest) else none
    | none =>
      if ['d', 's', 'w'].contains c then if mode.bytes then some (.shorthand, rest) else none
      else if ['a', 'f', 't', 'n', 'r', 'v'].contains c then some (.literal c false, rest)
      else if c = 'A' ∨ c = 'z' then some (.assertion, rest)
      else if ['b', 'B', '<', '>'].contains c then
        if mode.bytes then some (.assertion, rest) else none
      else if c.toNat < 0x80 ∧ !c.isAlphanum then some (.literal c false, rest)
      else none

/-- Whether a character may stand outside of classes. -/
def allowsLiteral (mode : Mode) (c : Char) (octet : Bool) : Bool :=
  mode.hasCase && !(mode.bytes && octet && 0x80 ≤ c.toNat)

/-! ## Classes -/

/-- Whether a character may stand inside of a class. -/
def allowsMember (mode : Mode) (c : Char) : Bool :=
  mode.hasCase && !(mode.bytes && 0x80 ≤ c.toNat)

/-- The classes that have names. -/
def classNames : List String :=
  ["alnum", "alpha", "ascii", "blank", "cntrl", "digit", "graph", "lower", "print", "punct",
    "space", "upper", "word", "xdigit"]

/-- Reads a named class inside of a class, from behind its opening bracket; says whether it is
negated. -/
def readNamed? : List Char → Option (Bool × List Char)
  | ':' :: text =>
    let (negated, text) := match text with
      | '^' :: rest => (true, rest)
      | _ => (false, text)
    match text.dropWhile (· != ':') with
    | ':' :: ']' :: rest =>
      if classNames.contains (String.ofList (text.takeWhile (· != ':'))) then some (negated, rest)
      else none
    | _ => none
  | _ => none

/-- Reads hyphens at the start of a class; says whether there were any. -/
def readHyphens (mode : Mode) : Nat → List Char → Bool × List Char
  | 0, text => (false, text)
  | fuel + 1, text =>
    match text with
    | '-' :: rest => (true, (readHyphens mode fuel (skipBlanks mode rest)).2)
    | _ => (false, text)

/-- Reads the start of a class behind its opening bracket: its negation, and what stands for itself
only there. -/
def openClass (mode : Mode) (text : List Char) : Option (List Char) :=
  let text := skipBlanks mode text
  let (negated, text) := match text with
    | '^' :: rest => (true, skipBlanks mode rest)
    | _ => (false, text)
  if negated ∧ mode.bytes then none
  else
    let (hyphens, text) := readHyphens mode text.length text
    if hyphens then if mode.hasCase then some text else none
    else
      match text with
      | ']' :: rest => if mode.hasCase then some (skipBlanks mode rest) else none
      | _ => some text

/-- Reads a member of a class. -/
def readMember (mode : Mode) : List Char → Option (Atom × List Char)
  | [] => none
  | '\\' :: rest => do
    let (atom, rest) ← readEscape mode rest
    match atom with
    | .literal c _ => if allowsMember mode c then return (atom, rest) else none
    | .shorthand => return (atom, rest)
    | .assertion => none
  | c :: rest => if allowsMember mode c then some (.literal c false, rest) else none

/-- Reads a member of a class or a range of them. -/
def readRange (mode : Mode) (text : List Char) : Option (List Char) := do
  let (first, rest) ← readMember mode text
  match skipBlanks mode rest with
  | '-' :: behind =>
    let next := (skipBlanks mode behind).head?
    if next = some ']' ∨ next = some '-' then return '-' :: behind
    let (last, rest) ← readMember mode (skipBlanks mode behind)
    match first, last with
    | .literal low _, .literal high _ => if low ≤ high then return rest else none
    | _, _ => none
  | rest => return rest

/-- Reads what is left of `depth` classes that are inside of each other, in at most `fuel` steps. -/
def readClass (mode : Mode) : Nat → Nat → List Char → Option (List Char)
  | 0, _, _ => none
  | _, 0, text => some text
  | fuel + 1, depth + 1, text =>
    match skipBlanks mode text with
    | [] => none
    | ']' :: rest => readClass mode fuel depth rest
    | '[' :: rest =>
      match readNamed? rest with
      | some (negated, rest) =>
        if mode.hasCase ∧ !(mode.bytes ∧ negated) then readClass mode fuel (depth + 1) rest
        else none
      | none => (openClass mode rest).bind (readClass mode fuel (depth + 2))
    | '&' :: '&' :: rest | '-' :: '-' :: rest | '~' :: '~' :: rest =>
      readClass mode fuel (depth + 1) rest
    | text => (readRange mode text).bind (readClass mode fuel (depth + 1))

/-! ## Groups -/

/-- Whether a character may stand in the name of a group, at its start or behind it. -/
def isNameChar (first : Bool) (c : Char) : Bool :=
  if first then c == '_' || Text.isAlphabetic c
  else ['_', '.', '[', ']'].contains c || Text.isAlphanumeric c

/-- Reads the name of a group up to its closing angle. -/
def readName (text : List Char) : Option (List Char × List Char) :=
  let name := text.takeWhile (· != '>')
  match name, text.dropWhile (· != '>') with
  | c :: more, '>' :: rest =>
    if isNameChar true c && more.all (isNameChar false) then some (name, rest) else none
  | _, _ => none

/-- Reads flags up to the mark behind them: the mode that they make, whether there are any, and what
follows from the mark on. Each stands there once, and a hyphen before those that are switched
off. -/
def readFlags (mode : Mode) (text : List Char) : Option (Mode × Bool × List Char) :=
  let flags := text.takeWhile fun c => c != ':' && c != ')'
  let rest := text.dropWhile fun c => c != ':' && c != ')'
  if rest.isEmpty ∨ flags.getLast? = some '-' then none
  else if flags.all ['i', 'm', 's', 'U', 'u', 'R', 'x', '-'].contains && flags.Nodup then
    let on := flags.takeWhile (· != '-')
    let off := flags.dropWhile (· != '-')
    some (off.foldl (·.set · false) (on.foldl (·.set · true) mode), !flags.isEmpty, rest)
  else none

/-! ## Whole patterns -/

/-- What is known at a place of a pattern. -/
structure Place where
  /-- How what follows is read. -/
  mode : Mode := {}
  /-- How what follows the groups around is read, from the innermost on. -/
  outer : List Mode := []
  /-- The names of groups so far. -/
  names : List (List Char) := []
  /-- Whether what stands before the place can be repeated. -/
  repeatable : Bool := false
  deriving DecidableEq, Repr

namespace Place

/-- The place behind something that can be repeated. -/
def behindItem (place : Place) : Place := { place with repeatable := true }

/-- The place inside of a group that is read in a mode. -/
def inside (place : Place) (mode : Mode) : Place :=
  { place with mode, outer := place.mode :: place.outer, repeatable := false }

/-- Reads the start of a group with a name. -/
def openNamed (place : Place) (text : List Char) : Option (Place × List Char) := do
  let (name, rest) ← readName text
  if place.names.contains name then none
  return ({ place with names := name :: place.names : Place }.inside place.mode, rest)

/-- Reads flags and their mark: they hold for the group that they open, or from there on. -/
def takeFlags (place : Place) (text : List Char) : Option (Place × List Char) := do
  let (mode, given, rest) ← readFlags place.mode text
  match rest with
  | ':' :: rest => return (place.inside mode, rest)
  | _ => if given then return ({ place with mode, repeatable := false }, rest.drop 1) else none

/-- Reads the start of a group behind its opening parenthesis. -/
def openGroup (place : Place) (text : List Char) : Option (Place × List Char) :=
  match skipBlanks place.mode text with
  | '?' :: 'P' :: '<' :: rest | '?' :: '<' :: rest => place.openNamed rest
  | '?' :: rest => place.takeFlags rest
  | rest => some (place.inside place.mode, rest)

/-- Leaves the innermost group. -/
def closeGroup (place : Place) : Option Place :=
  match place.outer with
  | [] => none
  | mode :: outer => some { place with mode, outer, repeatable := true }

/-- Reads the next part of a pattern, which begins with `c`. -/
def step (place : Place) (c : Char) (rest : List Char) : Option (Place × List Char) :=
  match c with
  | '(' => place.openGroup rest
  | ')' => place.closeGroup.map (·, rest)
  | '|' => some ({ place with repeatable := false }, rest)
  | '[' => do
    let rest ← openClass place.mode rest
    return (place.behindItem, ← readClass place.mode (rest.length + 2) 1 rest)
  | '?' | '*' | '+' => if place.repeatable then some (place, rest) else none
  | '\x7b' => none
  | '.' => if place.mode.bytes then none else some (place.behindItem, rest)
  | '^' | '$' => some (place.behindItem, rest)
  | '\\' => do
    let (atom, rest) ← readEscape place.mode rest
    match atom with
    | .literal c octet =>
      if allowsLiteral place.mode c octet then return (place.behindItem, rest) else none
    | .shorthand | .assertion => return (place.behindItem, rest)
  | _ => if place.mode.hasCase then some (place.behindItem, rest) else none

/-- Whether the rest of a pattern is well formed, in at most `fuel` parts. -/
def accepts : Nat → Place → List Char → Bool
  | 0, _, _ => false
  | fuel + 1, place, text =>
    match skipBlanks place.mode text with
    | [] => place.outer.isEmpty
    | c :: rest =>
      match place.step c rest with
      | some (place, rest) => accepts fuel place rest
      | none => false

end Place

/-- Whether a text is a pattern. -/
def isPattern (text : List Char) : Bool := Place.accepts (text.length + 1) {} text

end NetSession.Console.Pattern
