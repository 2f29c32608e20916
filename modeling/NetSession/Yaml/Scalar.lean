import NetSession.Yaml.Cursor

/-!
# Scalars of YAML

The three ways to write a text: plain, in quotes, and as an indented block. In the first two, blanks
around a line break fold: one break reads as a space, and of more breaks the first is dropped.
-/

namespace NetSession.Yaml

/-- How a scalar is written. -/
inductive Style where
  /-- Without marks. -/
  | plain
  /-- In single quotes. -/
  | singleQuoted
  /-- In double quotes. -/
  | doubleQuoted
  /-- As a block that keeps its lines. -/
  | literal
  /-- As a block whose lines fold. -/
  | folded
  deriving DecidableEq, Repr

/-- Blanks between two words, as they are read. -/
structure Gap where
  /-- Spaces and tabs before any line break. -/
  spaces : List Char
  /-- The first line break. -/
  first : List Char
  /-- The breaks after it. -/
  more : List Char
  /-- Whether a line ended. -/
  crossed : Bool
  deriving DecidableEq, Repr

namespace Gap

/-- No blanks. -/
def none : Gap := ⟨[], [], [], false⟩

/-- What is left of the blanks in the text. -/
def render (gap : Gap) : List Char :=
  if gap.crossed then
    if gap.first = ['\n'] then if gap.more = [] then [' '] else gap.more
    else gap.first ++ gap.more
  else gap.spaces

/-- Reads blanks and line breaks in at most `fuel` steps. After a break, a tab before column
`indent` is refused. -/
def read (indent : Nat) : Nat → Gap → Cursor → Except Fault (Gap × Cursor)
  | 0, gap, c => .ok (gap, c)
  | fuel + 1, gap, c =>
    match c.next? with
    | Option.none => .ok (gap, c)
    | some char =>
      if isSpace char then
        if gap.crossed then
          if char = '\t' ∧ c.column < indent then .error .tabIndentation
          else read indent fuel gap (c.skip 1)
        else read indent fuel { gap with spaces := gap.spaces ++ [char] } (c.skip 1)
      else if isBreak char then
        let (br, c) := c.takeBreak
        let gap :=
          if gap.crossed then { gap with more := gap.more ++ br }
          else { gap with spaces := [], first := br, crossed := true }
        read indent fuel gap c
      else .ok (gap, c)

end Gap

/-! ## Plain scalars -/

/-- The marks that structure a flow collection. -/
def isFlowMark (c : Char) : Bool := [',', '[', ']', '\x7b', '\x7d'].contains c

/-- The longest word of a plain scalar at the head of a text: it ends before a blank, before a colon
that a blank follows, and in a flow collection before its marks. -/
def plainWord (inFlow : Bool) : List Char → Except Fault (List Char)
  | [] => .ok []
  | c :: rest =>
    if isSpace c || isBreak c then .ok []
    else if inFlow && c == ':' && rest.head?.any (fun d => isFlowMark d || d == '?') then
      .error .unexpectedCharacter
    else if c == ':' && endsWord rest.head? then .ok []
    else if inFlow && isFlowMark c then .ok []
    else do return c :: (← plainWord inFlow rest)

/-- A plain scalar as read: its text, where it ends, and whether its last blanks crossed a line. -/
structure Plain where
  /-- The text. -/
  text : List Char
  /-- Where reading stopped. -/
  cursor : Cursor
  /-- Whether a line ended behind it. -/
  crossed : Bool
  deriving DecidableEq, Repr

/-- Reads on in a plain scalar after `text` and a gap, in at most `fuel` words. Outside flow
collections, its further lines start at column `indent` or behind it. -/
def readPlainFrom (inFlow : Bool) (indent : Nat) :
    Nat → List Char → Gap → Cursor → Except Fault Plain
  | 0, text, gap, c => .ok ⟨text, c, gap.crossed⟩
  | fuel + 1, text, gap, c => do
    if c.isAtBoundary || c.isAt '#' then return ⟨text, c, gap.crossed⟩
    let word ← plainWord inFlow c.rest
    let c := c.skip word.length
    let (text, gap) := if word = [] then (text, gap) else (text ++ gap.render ++ word, Gap.none)
    if !c.isAtAny (fun d => isSpace d || isBreak d) then return ⟨text, c, gap.crossed⟩
    let (gap, c) ← Gap.read indent c.rest.length gap c
    if !inFlow && decide (c.column < indent) then return ⟨text, c, gap.crossed⟩
    readPlainFrom inFlow indent fuel text gap c

/-- Reads a plain scalar. -/
def readPlain (inFlow : Bool) (indent : Nat) (c : Cursor) : Except Fault Plain :=
  readPlainFrom inFlow indent (c.rest.length + 1) [] Gap.none c

/-! ## Quoted scalars -/

/-- What an escape sequence of one character stands for. -/
def shortEscape? : Char → Option Char
  | '0' => some '\x00'
  | 'a' => some '\x07'
  | 'b' => some '\x08'
  | 't' => some '\t'
  | '\t' => some '\t'
  | 'n' => some '\n'
  | 'v' => some '\x0b'
  | 'f' => some '\x0c'
  | 'r' => some '\x0d'
  | 'e' => some '\x1b'
  | ' ' => some ' '
  | '"' => some '"'
  | '/' => some '/'
  | '\\' => some '\\'
  | 'N' => some '\u0085'
  | '_' => some '\u00a0'
  | 'L' => some '\u2028'
  | 'P' => some '\u2029'
  | _ => none

/-- The number of hexadecimal digits behind a letter. -/
def escapeLength? : Char → Option Nat
  | 'x' => some 2
  | 'u' => some 4
  | 'U' => some 8
  | _ => none

/-- The character of a code, if it is one. -/
def charOfCode? (n : Nat) : Option Char :=
  if h : n.isValidChar then some (Char.ofNatAux n h) else none

/-- Reads the escape sequence behind a backslash: its character and its length. -/
def readEscape (rest : List Char) : Except Fault (Char × Nat) :=
  match rest with
  | [] => .error .badEscape
  | c :: rest =>
    match shortEscape? c, escapeLength? c with
    | some char, _ => .ok (char, 1)
    | none, some n =>
      let digits := rest.take n
      match (if digits.length = n then hexValue? digits else none).bind charOfCode? with
      | some char => .ok (char, n + 1)
      | none => .error .badEscape
    | none, none => .error .badEscape

/-- Reads characters inside quotes up to a blank, the closing quote or an escaped line break, in at
most `fuel` steps; says whether a line break was escaped. -/
def readQuotedWord (single : Bool) :
    Nat → List Char → Cursor → Except Fault (List Char × Bool × Cursor)
  | 0, word, c => .ok (word, false, c)
  | fuel + 1, word, c =>
    match c.rest with
    | [] => .ok (word, false, c)
    | char :: rest =>
      if isSpace char || isBreak char then .ok (word, false, c)
      else if single && char == '\'' && rest.head? == some '\'' then
        readQuotedWord single fuel (word ++ ['\'']) (c.skip 2)
      else if char == (if single then '\'' else '"') then .ok (word, false, c)
      else if !single && char == '\\' then
        if rest.head?.any isBreak then .ok (word, true, (c.skip 1).skipBreak)
        else do
          let (char, length) ← readEscape rest
          readQuotedWord single fuel (word ++ [char]) (c.skip (length + 1))
      else readQuotedWord single fuel (word ++ [char]) (c.skip 1)

/-- Reads on inside quotes after `text`, in at most `fuel` words. -/
def readQuotedFrom (single : Bool) :
    Nat → List Char → Cursor → Except Fault (List Char × Cursor)
  | 0, _, _ => .error .unclosedQuote
  | fuel + 1, text, c => do
    if c.isAtBoundary || c.rest.isEmpty then throw .unclosedQuote
    let (word, crossed, c) ← readQuotedWord single c.rest.length [] c
    if c.isAt (if single then '\'' else '"') then return (text ++ word, c.skip 1)
    let (gap, c) ← Gap.read 0 c.rest.length { Gap.none with crossed } c
    readQuotedFrom single fuel (text ++ word ++ gap.render) c

/-- Reads a quoted scalar. -/
def readQuoted (single : Bool) (c : Cursor) : Except Fault (List Char × Cursor) :=
  readQuotedFrom single (c.rest.length + 1) [] (c.skip 1)

/-! ## Block scalars -/

/-- What happens to the line breaks at the end of a block. -/
inductive Chomping where
  /-- All are dropped. -/
  | strip
  /-- One is kept. -/
  | clip
  /-- All are kept. -/
  | keep
  deriving DecidableEq, Repr

/-- The chomping that a mark stands for. -/
def chomping? : Option Char → Option Chomping
  | some '+' => some .keep
  | some '-' => some .strip
  | _ => none

/-- Reads the digit of an explicit indentation. -/
def readIncrement (c : Cursor) : Except Fault (Nat × Cursor) :=
  match c.next? with
  | some d =>
    if d = '0' then .error .badBlockHeader
    else if d.isDigit then .ok (d.toNat - '0'.toNat, c.skip 1)
    else .ok (0, c)
  | none => .ok (0, c)

/-- Reads the header of a block: its chomping and the added indentation, zero if it is not given. -/
def readBlockHeader (c : Cursor) : Except Fault (Chomping × Nat × Cursor) := do
  let (chomping, increment, c) ←
    match chomping? c.next? with
    | some chomping => do
      let (increment, c) ← readIncrement (c.skip 1)
      pure (chomping, increment, c)
    | none => do
      let (increment, c) ← readIncrement c
      match if increment = 0 then none else chomping? c.next? with
      | some chomping => pure (chomping, increment, c.skip 1)
      | none => pure (Chomping.clip, increment, c)
  let c := (c.skipWhile isSpace).skipComment
  if endsLine c.next? then return (chomping, increment, c.skipBreak) else throw .badBlockHeader

/-- Reads empty lines and the indentation of the next line, in at most `fuel` lines. An indentation
of zero is still to be found. Gives the breaks and the largest column that was met. -/
def readBlockBreaks (indent : Nat) :
    Nat → Nat → List Char → Cursor → Except Fault (List Char × Nat × Cursor)
  | 0, largest, breaks, c => .ok (breaks, largest, c)
  | fuel + 1, largest, breaks, c =>
    let spaces := c.rest.takeWhile (· == ' ')
    let c := c.skip (if indent = 0 then spaces.length else min spaces.length (indent - c.column))
    let largest := max largest c.column
    if (indent = 0 ∨ c.column < indent) ∧ c.isAt '\t' then .error .tabIndentation
    else if c.isAtAny isBreak then
      let (br, c) := c.takeBreak
      readBlockBreaks indent fuel largest (breaks ++ br) c
    else .ok (breaks, largest, c)

/-- Reads the lines of a block after `text`, in at most `fuel` lines: `first` and `more` are the
breaks behind `text`, and `indented` says whether its last line started with a blank. -/
def readBlockLines (folds : Bool) (indent : Nat) :
    Nat → List Char → List Char → List Char → Bool → Cursor →
      Except Fault (List Char × List Char × List Char × Cursor)
  | 0, text, first, more, _, c => .ok (text, first, more, c)
  | fuel + 1, text, first, more, indented, c => do
    if c.column ≠ indent ∨ c.rest.isEmpty then return (text, first, more, c)
    let blank := c.isAtAny isSpace
    let lead :=
      if folds && first == ['\n'] && !indented && !blank then
        if more = [] then [' '] else []
      else first
    let (line, c) := c.takeWhile (!isBreak ·)
    let (br, c) := c.takeBreak
    let (breaks, _, c) ← readBlockBreaks indent (c.rest.length + 1) 0 [] c
    readBlockLines folds indent fuel (text ++ lead ++ more ++ line) br breaks blank c

/-- Reads a block scalar inside a collection that is indented by `parent` columns (minus one for
none). -/
def readBlock (folds : Bool) (parent : Int) (c : Cursor) : Except Fault (List Char × Cursor) := do
  let (chomping, increment, c) ← readBlockHeader (c.skip 1)
  let explicit := if increment = 0 then 0 else (max parent 0).toNat + increment
  let (breaks, largest, c) ← readBlockBreaks explicit (c.rest.length + 1) 0 [] c
  let indent := if explicit = 0 then max (max largest (parent + 1).toNat) 1 else explicit
  let (text, first, more, c) ←
    readBlockLines folds indent (c.rest.length + 1) [] [] breaks false c
  let tail := match chomping with
    | .strip => []
    | .clip => first
    | .keep => first ++ more
  return (text ++ tail, c)

end NetSession.Yaml
