import NetSession.Console.Notice
import NetSession.Console.Pattern
import NetSession.Text.Decimal
import NetSession.Text.Utf8

/-!
# Directives

What a filter is made of: a level for a part of what is said. A directive is written as a level, or
as a target with or without a level behind an equals sign. A target can be followed, or replaced, by
brackets with the name of a span, and inside them by braces with a field that it asks for.

The parts are looked for without the blanks around the directive, and cut out of the whole text at
the places that were found, counted in bytes. So blanks in front shift every part, and a cut can
fall inside a character, which nothing recovers from (`Fault.torn`).
-/

namespace NetSession.Console

/-- How much is shown. -/
inductive Verbosity where
  /-- Nothing. -/
  | off
  /-- Everything that matters at least so much. -/
  | atLeast (severity : Severity)
  deriving DecidableEq, Repr

/-- The rank of a severity, the more it matters the lower. -/
def Severity.rank : Severity → Nat
  | .error => 1
  | .warn => 2
  | .info => 3
  | .debug => 4
  | .trace => 5

namespace Verbosity

/-- Whether a severity is shown. -/
def shows : Verbosity → Severity → Bool
  | .off, _ => false
  | .atLeast least, severity => severity.rank ≤ least.rank

/-- Everything is shown. -/
def all : Verbosity := .atLeast .trace

/-- The verbosity of a number. -/
def ofNumber? : Nat → Option Verbosity
  | 0 => some .off
  | 1 => some (.atLeast .error)
  | 2 => some (.atLeast .warn)
  | 3 => some (.atLeast .info)
  | 4 => some (.atLeast .debug)
  | 5 => some (.atLeast .trace)
  | _ => none

/-- Reads a verbosity: a number, or a name in letters of either case; an empty text shows errors. -/
def read? (text : List Char) : Option Verbosity :=
  match ((Decimal.read Decimal.bound64 text).toOption).bind ofNumber? with
  | some verbosity => some verbosity
  | none =>
    match String.ofList (text.map Char.toLower) with
    | "" | "error" => some (.atLeast .error)
    | "warn" => some (.atLeast .warn)
    | "info" => some (.atLeast .info)
    | "debug" => some (.atLeast .debug)
    | "trace" => some (.atLeast .trace)
    | "off" => some .off
    | _ => none

end Verbosity

/-- A field that a directive asks for. -/
structure FieldFilter where
  /-- Its name. -/
  name : List Char
  /-- Whether it asks for a value as well. -/
  valued : Bool
  deriving DecidableEq, Repr

/-- A directive of a filter. -/
structure Directive where
  /-- The start of the paths that it is for; `none` for all. -/
  target : Option (List Char) := none
  /-- Whether it names a span. -/
  spanned : Bool := false
  /-- The field that it asks for. -/
  field : Option FieldFilter := none
  /-- What is shown. -/
  verbosity : Verbosity
  deriving DecidableEq, Repr

/-- Why a text is no directive. -/
inductive Directive.Fault where
  /-- It does not have the form of one. -/
  | malformed
  /-- Its level is none. -/
  | badLevel
  /-- A part of it would begin or end inside a character. -/
  | torn
  deriving DecidableEq, Repr

namespace FieldFilter

/-- Whether a text is a decimal fraction with an optional exponent, or names infinity or what is no
number. -/
def isMagnitude (text : List Char) : Bool :=
  let digits (text : List Char) : Nat := (text.takeWhile Char.isDigit).length
  let whole := digits text
  let (fraction, rest) := match text.drop whole with
    | '.' :: rest => (digits rest, rest.drop (digits rest))
    | rest => (0, rest)
  let ends := match rest with
    | [] => true
    | e :: rest =>
      let exponent := match rest with
        | '+' :: rest | '-' :: rest => rest
        | rest => rest
      (e == 'e' || e == 'E') && !exponent.isEmpty && exponent.all Char.isDigit
  0 < whole + fraction && ends
    || ["inf", "infinity", "nan"].contains (String.ofList (text.map Char.toLower))

/-- Whether a text can stand as the value of a field: a number, which may have a sign, or a
pattern. -/
def isValue : List Char → Bool
  | '+' :: rest => isMagnitude rest
  | text => Pattern.isPattern text

/-- Reads a field: a name, with a value behind an equals sign; what is behind a second one does not
count. -/
def read (text : List Char) : Except Directive.Fault FieldFilter :=
  let name := text.takeWhile (· != '=')
  match text.drop name.length with
  | [] => .ok ⟨name, false⟩
  | _ :: rest =>
    if isValue (rest.takeWhile (· != '=')) then .ok ⟨name, true⟩ else .error .malformed

end FieldFilter

namespace Directive

/-- The wording of a fault, followed by that of its cause. -/
def Fault.chain : Fault → List String
  | .malformed | .torn => ["invalid filter directive"]
  | .badLevel =>
    let text := "error parsing level filter: expected one of \"off\", \"error\", \"warn\", "
      ++ "\"info\", \"debug\", \"trace\", or a number 0-5"
    [text, text]

/-- Whether a directive may begin with a character. -/
def mayBegin (c : Char) : Bool := c = '-' || c = ':' || c = '_' || Text.isAlphanumeric c

/-- Whether a byte is no first byte of a character. -/
def isContinuation (b : UInt8) : Bool := 0x80 ≤ b.toNat && b.toNat < 0xC0

/-- The part of a text from one place to another, counted in bytes. -/
def part (whole : Bytes) (start stop : Nat) : Except Fault (List Char) :=
  if whole[start]?.any isContinuation || whole[stop]?.any isContinuation then .error .torn
  else
    match Utf8.decode? ((whole.drop start).take (stop - start)) with
    | some text => .ok text
    | none => .error .torn

/-- The number of bytes before the first of some marks. -/
def reach (marks : List Char) (rest : Bytes) : Nat :=
  (rest.takeWhile fun b => !marks.any (·.toNat == b.toNat)).length

/-- Reads the level of a directive, of which `rest` is left at `start`; everything is shown where it
is left out. It ends at a comma, behind which there can be nothing. -/
def readLevel (whole : Bytes) (directive : Directive) (start : Nat) (rest : Bytes) :
    Except Fault Directive := do
  let length := reach [','] rest
  let stop := if length < rest.length then start + length else whole.length
  let level ← part whole start stop
  let verbosity? := if level.isEmpty then some .all else Verbosity.read? level
  match verbosity? with
  | none => throw .badLevel
  | some verbosity =>
    if length + 1 < rest.length then throw .malformed else return { directive with verbosity }

/-- Reads what follows the brackets: nothing, or a level. -/
def readTail (whole : Bytes) (directive : Directive) (start : Nat) (rest : Bytes) :
    Except Fault Directive :=
  match rest with
  | [] => .ok directive
  | b :: rest =>
    if b.toNat = '='.toNat then readLevel whole directive (start + 1) rest else .error .malformed

/-- Reads a field and the brackets behind it, from behind the opening brace. -/
def readField (whole : Bytes) (directive : Directive) (start : Nat) (rest : Bytes) :
    Except Fault Directive := do
  let length := reach ['\x7d'] rest
  if rest.length ≤ length then throw .malformed
  let text ← part whole start (start + length)
  if text.isEmpty then throw .malformed
  let field ← FieldFilter.read text
  match rest.drop (length + 1) with
  | b :: rest =>
    if b.toNat = ']'.toNat then
      readTail whole { directive with field := some field } (start + length + 2) rest
    else throw .malformed
  | [] => throw .malformed

/-- Reads the brackets with what follows them, from behind the opening one. -/
def readSpan (whole : Bytes) (directive : Directive) (start : Nat) (rest : Bytes) :
    Except Fault Directive := do
  let length := reach [']', '\x7b'] rest
  match rest.drop length with
  | [] => throw .malformed
  | b :: rest =>
    let name ← part whole start (start + length)
    let next := start + length + 1
    if b.toNat = ']'.toNat then readTail whole { directive with spanned := true } next rest
    else readField whole { directive with spanned := !name.isEmpty } next rest

/-- Reads a directive. -/
def read (text : List Char) : Except Fault Directive := do
  let whole := Utf8.encode text
  let trimmed := Text.trim text
  let rest := Utf8.encode trimmed
  match trimmed with
  | [] => throw .malformed
  | '[' :: _ => readSpan whole { verbosity := .all } 1 (rest.drop 1)
  | c :: _ =>
    if !mayBegin c then throw .malformed
    let length := reach ['=', '['] rest
    match rest.drop length with
    | [] =>
      match Verbosity.read? text with
      | some verbosity => return { verbosity }
      | none => return { target := some text, verbosity := .all }
    | b :: rest =>
      let target ← part whole 0 length
      let directive : Directive := { target := some target, verbosity := .all }
      if b.toNat = '='.toNat then readLevel whole directive (length + 1) rest
      else readSpan whole directive (length + 1) rest

/-- Whether a directive decides about notices: it names no span, since no notice is in one, and asks
for no value, since values are known of spans only. -/
def isDecisive (directive : Directive) : Bool :=
  !directive.spanned && directive.field.all (!·.valued)

/-- Whether a directive is for a notice: it decides, its target is the start of the path that the
notice comes from, and the notice has the field that it asks for. -/
def fits (directive : Directive) (notice : Notice) : Bool :=
  directive.isDecisive && directive.target.all (·.isPrefixOf notice.origin.path.toList)
    && directive.field.all fun field => notice.values.any (·.1.toList == field.name)

/-- How much of a path a directive asks for: nothing, or the length of its target and one more. -/
def extent (directive : Directive) : Nat := (directive.target.map (·.length + 1)).getD 0

/-- The name of the field that a directive asks for; empty if there is none. -/
def fieldName (directive : Directive) : List Char := (directive.field.map (·.name)).getD []

/-- Whether the first of two directives goes before the second: it asks for more of a path, or for
as much and for a field whose name comes later. -/
def precedes (a b : Directive) : Bool :=
  b.extent < a.extent || (b.extent == a.extent && b.fieldName < a.fieldName)

end Directive

end NetSession.Console
