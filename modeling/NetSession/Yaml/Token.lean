import NetSession.Text.Utf8
import NetSession.Yaml.Scalar

/-!
# Tokens of YAML

`Token.ofText` cuts a text into tokens. Indentation becomes tokens of its own: the start and end of
a block collection. A key without a mark is known only when its colon is met, so the places where
one may have started are remembered (`Scanner.keys`) and its token is put in afterwards; such a key
stays on one line and within 1024 bytes.
-/

namespace NetSession.Yaml

/-- A token. -/
inductive Token where
  /-- A directive that declares the version. -/
  | version (major minor : Nat)
  /-- A directive that declares a tag handle. -/
  | handle (name : Bytes) (expansion : Bytes)
  /-- The mark before a document. -/
  | documentStart
  /-- The mark behind a document. -/
  | documentEnd
  /-- The start of an indented sequence. -/
  | blockSequenceStart
  /-- The start of an indented mapping. -/
  | blockMappingStart
  /-- The end of an indented collection. -/
  | blockEnd
  /-- An opening bracket. -/
  | flowSequenceStart
  /-- A closing bracket. -/
  | flowSequenceEnd
  /-- An opening brace. -/
  | flowMappingStart
  /-- A closing brace. -/
  | flowMappingEnd
  /-- The dash before an entry. -/
  | blockEntry
  /-- The comma between entries. -/
  | flowEntry
  /-- The start of a key. -/
  | key
  /-- The start of a value. -/
  | value
  /-- A reference to an anchor. -/
  | alias (name : String)
  /-- A name for the node that follows. -/
  | anchor (name : String)
  /-- A tag: its handle, and what stands behind it. -/
  | tag (handle suffix : Bytes)
  /-- A text. -/
  | scalar (text : List Char) (style : Style)
  deriving DecidableEq, Repr

/-- A place where a key may have started. -/
structure KeyPlace where
  /-- Whether only a key may stand there. -/
  required : Bool
  /-- How many tokens there were before it. -/
  tokens : Nat
  /-- The place in the text. -/
  cursor : Cursor
  deriving DecidableEq, Repr

/-- The state of cutting a text into tokens. -/
structure Scanner where
  /-- What is still to be read. -/
  cursor : Cursor
  /-- The tokens so far. -/
  tokens : List Token
  /-- The column of the innermost indented collection; minus one outside all. -/
  indent : Int
  /-- The columns of the collections around it. -/
  outer : List Int
  /-- The place of a key that may have started, for each flow collection from the innermost on and
  for the block context around them. -/
  keys : List (Option KeyPlace)
  /-- Whether a key may start here. -/
  keyAllowed : Bool

namespace Scanner

/-- The start of a text. -/
def ofText (text : List Char) : Scanner := ⟨.ofText text, [], -1, [], [none], true⟩

/-- Whether the scanner is inside a flow collection. -/
def inFlow (s : Scanner) : Bool := 1 < s.keys.length

/-- Adds a token. -/
def push (s : Scanner) (token : Token) : Scanner := { s with tokens := s.tokens ++ [token] }

/-- Replaces the key place of the innermost context. -/
def setKey (s : Scanner) (key : Option KeyPlace) : Scanner := { s with keys := key :: s.keys.tail }

/-- Forgets the key place of the innermost context, unless a key has to follow. -/
def dropKey (s : Scanner) : Except Fault Scanner :=
  match s.keys.head? with
  | some (some key) => if key.required then .error .missingColon else .ok (s.setKey none)
  | _ => .ok s

/-- Remembers that a key may start here. -/
def saveKey (s : Scanner) : Except Fault Scanner :=
  if s.keyAllowed then do
    let required := !s.inFlow && s.indent == (s.cursor.column : Int)
    return (← s.dropKey).setKey (some ⟨required, s.tokens.length, s.cursor⟩)
  else .ok s

/-- Forgets the places from which a key would have become too long. -/
def dropStaleKeys (s : Scanner) : Except Fault Scanner := do
  let fresh (key : KeyPlace) : Bool :=
    s.cursor.line ≤ key.cursor.line && s.cursor.index ≤ key.cursor.index + 1024
  let keys ← s.keys.mapM fun place =>
    match place with
    | some key =>
      if fresh key then .ok (some key)
      else if key.required then .error Fault.missingColon
      else .ok none
    | none => .ok none
  return { s with keys }

/-- Starts an indented collection at a column behind the current one, with its token put in at a
place among the tokens. -/
def roll (s : Scanner) (column place : Nat) (token : Token) : Scanner :=
  if s.inFlow ∨ (column : Int) ≤ s.indent then s
  else
    { s with
      tokens := s.tokens.insertIdx place token
      outer := s.indent :: s.outer
      indent := column }

/-- Ends the columns of indented collections behind a column: how many end, and what is left. -/
def unrolled (column : Int) : Int → List Int → Nat × Int × List Int
  | indent, [] => (0, indent, [])
  | indent, next :: outer =>
    if column < indent then
      let (n, rest) := unrolled column next outer
      (n + 1, rest)
    else (0, indent, next :: outer)

/-- Ends the indented collections behind a column. -/
def unroll (s : Scanner) (column : Int) : Scanner :=
  if s.inFlow then s
  else
    let (n, indent, outer) := unrolled column s.indent s.outer
    { s with tokens := s.tokens ++ List.replicate n .blockEnd, indent, outer }

/-- Skips blanks, comments, line breaks and a byte order mark at the start of each line, in at most
`fuel` lines. Tabs are skipped where no key may start. -/
def skipToToken : Nat → Scanner → Scanner
  | 0, s => s
  | fuel + 1, s =>
    let c := s.cursor.skipByteOrderMark.skipWhile fun char =>
      char == ' ' || ((s.inFlow || !s.keyAllowed) && char == '\t')
    let c := c.skipComment
    if c.isAtAny isBreak then
      skipToToken fuel
        { s with cursor := c.skipBreak, keyAllowed := s.keyAllowed || !s.inFlow }
    else { s with cursor := c }

/-! ## Directives, anchors and tags -/

/-- The bytes of a run of ASCII characters. -/
def bytesOf (text : List Char) : Bytes := text.map fun c => c.toNat.toUInt8

/-- Reads a number of at most nine digits. -/
def readNumber (c : Cursor) : Except Fault (Nat × Cursor) :=
  let (digits, c) := c.takeWhile Char.isDigit
  if digits = [] ∨ 9 < digits.length then .error .badDirective
  else .ok (digits.foldl (fun n d => n * 10 + (d.toNat - '0'.toNat)) 0, c)

/-- Reads an exclamation mark with a name and a second mark behind it, as far as they are there. -/
def readHandle (c : Cursor) : Except Fault (Bytes × Cursor) :=
  if c.isAt '!' then
    let (name, c) := (c.skip 1).takeWhile isNameChar
    if c.isAt '!' then .ok (bytesOf ('!' :: name ++ ['!']), c.skip 1)
    else .ok (bytesOf ('!' :: name), c)
  else .error .badProperty

/-- Whether a character may stand in a tag; more may inside angle brackets. -/
def isTagChar (bracketed : Bool) (c : Char) : Bool :=
  isNameChar c || ";/?:@&=+$.%!~*'()".toList.contains c
    || (bracketed && [',', '[', ']'].contains c)

/-- The number of bytes in the UTF-8 form that starts with a byte. -/
def sequenceLength? (lead : Nat) : Option Nat :=
  if lead < 0x80 then some 1
  else if 0xC0 ≤ lead ∧ lead < 0xE0 then some 2
  else if 0xE0 ≤ lead ∧ lead < 0xF0 then some 3
  else if 0xF0 ≤ lead ∧ lead < 0xF8 then some 4
  else none

/-- Reads one byte as a percent sign with two digits. -/
def readPercent (c : Cursor) : Except Fault (Nat × Cursor) :=
  match c.rest with
  | '%' :: a :: b :: _ =>
    match hexValue? [a, b] with
    | some n => .ok (n, c.skip 3)
    | none => .error .badProperty
  | _ => .error .badProperty

/-- Reads the bytes that continue a character. -/
def readContinuation : Nat → Cursor → Except Fault (Bytes × Cursor)
  | 0, c => .ok ([], c)
  | n + 1, c => do
    let (b, c) ← readPercent c
    if b < 0x80 ∨ 0xC0 ≤ b then throw .badProperty
    let (rest, c) ← readContinuation n c
    return (b.toUInt8 :: rest, c)

/-- Reads a character that is written as bytes with percent signs. -/
def readEscapedBytes (c : Cursor) : Except Fault (Bytes × Cursor) := do
  let (lead, c) ← readPercent c
  match sequenceLength? lead with
  | none => throw .badProperty
  | some n =>
    let (rest, c) ← readContinuation (n - 1) c
    return (lead.toUInt8 :: rest, c)

/-- Reads the characters of a tag, in at most `fuel` steps. -/
def readTagChars (bracketed : Bool) : Nat → Bytes → Cursor → Except Fault (Bytes × Cursor)
  | 0, bytes, c => .ok (bytes, c)
  | fuel + 1, bytes, c =>
    match c.next? with
    | none => .ok (bytes, c)
    | some char =>
      if char = '%' then do
        let (more, c) ← readEscapedBytes c
        readTagChars bracketed fuel (bytes ++ more) c
      else if isTagChar bracketed char then
        readTagChars bracketed fuel (bytes ++ bytesOf [char]) (c.skip 1)
      else .ok (bytes, c)

/-- Reads a tag behind `head`, of which the first mark is left out. It may be empty only if there is
a head. -/
def readTagText (bracketed : Bool) (head : Bytes) (c : Cursor) : Except Fault (Bytes × Cursor) := do
  let (bytes, after) ← readTagChars bracketed c.rest.length [] c
  if head = [] ∧ bytes = [] then throw .badProperty
  return (head.tail ++ bytes, after)

/-- The mark that starts a handle, and the handle of tags without one. -/
def bang : Bytes := bytesOf ['!']

/-- Reads a directive behind its percent sign. -/
def readDirective (c : Cursor) : Except Fault (Token × Cursor) := do
  let (name, c) := c.takeWhile isNameChar
  if name = [] ∨ !endsWord c.next? then throw .badDirective
  let c := c.skipWhile isSpace
  let (token, c) ←
    if name = "YAML".toList then do
      let (major, c) ← readNumber c
      if !c.isAt '.' then throw .badDirective
      let (minor, c) ← readNumber (c.skip 1)
      pure (Token.version major minor, c)
    else if name = "TAG".toList then do
      let (handle, c) ← readHandle c
      if handle ≠ bang ∧ handle.getLast? ≠ bang.head? then throw .badDirective
      if !c.isAtAny isSpace then throw .badDirective
      let (expansion, c) ← readTagText true [] (c.skipWhile isSpace)
      if !endsWord c.next? then throw .badDirective
      pure (Token.handle handle expansion, c)
    else throw .badDirective
  let c := (c.skipWhile isSpace).skipComment
  if endsLine c.next? then return (token, c.skipBreak) else throw .badDirective

/-- Whether a character may follow the name of an anchor. -/
def endsAnchor (next : Option Char) : Bool :=
  endsWord next || next.any fun c => ['?', ':', ',', ']', '\x7d', '%', '@', '\x60'].contains c

/-- Reads the name of an anchor or alias behind its mark. -/
def readAnchor (c : Cursor) : Except Fault (String × Cursor) :=
  let (name, c) := c.takeWhile isNameChar
  if name = [] ∨ !endsAnchor c.next? then .error .badProperty else .ok (String.ofList name, c)

/-- Reads a tag: in angle brackets, behind a named handle, or behind the plain mark. -/
def readTag (c : Cursor) (inFlow : Bool) : Except Fault (Token × Cursor) := do
  let (token, c) ←
    if c.ahead? 1 = some '<' then do
      let (suffix, c) ← readTagText true [] (c.skip 2)
      if !c.isAt '>' then throw .badProperty
      pure (Token.tag [] suffix, c.skip 1)
    else do
      let (handle, c) ← readHandle c
      if 1 < handle.length ∧ handle.getLast? = bang.head? then do
        let (suffix, c) ← readTagText false [] c
        pure (Token.tag handle suffix, c)
      else do
        let (suffix, c) ← readTagText false handle c
        pure (if suffix = [] then Token.tag [] bang else Token.tag bang suffix, c)
  if endsWord c.next? ∨ (inFlow ∧ c.isAt ',') then return (token, c) else throw .badProperty

/-! ## Tokens one by one -/

/-- Takes a token of a given length that no key can start with. -/
def takeMark (s : Scanner) (length : Nat) (token : Token) (keyAllowed : Bool) : Scanner :=
  { s.push token with cursor := s.cursor.skip length, keyAllowed }

/-- Takes the mark at the start or end of a document. -/
def takeBoundary (s : Scanner) (token : Token) : Except Fault Scanner := do
  return (← (s.unroll (-1)).dropKey).takeMark 3 token false

/-- Takes a directive. -/
def takeDirective (s : Scanner) : Except Fault Scanner := do
  let s ← (s.unroll (-1)).dropKey
  let (token, cursor) ← readDirective (s.cursor.skip 1)
  return { s.push token with cursor, keyAllowed := false }

/-- Takes an opening bracket or brace. -/
def takeOpening (s : Scanner) (token : Token) : Except Fault Scanner := do
  let s ← s.saveKey
  return { s with keys := none :: s.keys }.takeMark 1 token true

/-- Takes a closing bracket or brace. -/
def takeClosing (s : Scanner) (token : Token) : Except Fault Scanner := do
  let s ← s.dropKey
  let keys := if s.inFlow then s.keys.tail else s.keys
  return { s with keys }.takeMark 1 token false

/-- Takes the dash before an entry. -/
def takeEntry (s : Scanner) : Except Fault Scanner := do
  if !s.inFlow && !s.keyAllowed then throw .misplacedIndicator
  let s := s.roll s.cursor.column s.tokens.length .blockSequenceStart
  return (← s.dropKey).takeMark 1 .blockEntry true

/-- Takes the mark of an explicit key. -/
def takeKey (s : Scanner) : Except Fault Scanner := do
  if !s.inFlow && !s.keyAllowed then throw .misplacedIndicator
  let s := s.roll s.cursor.column s.tokens.length .blockMappingStart
  return (← s.dropKey).takeMark 1 .key (!s.inFlow)

/-- Takes the colon before a value. -/
def takeValue (s : Scanner) : Except Fault Scanner :=
  match s.keys.head? with
  | some (some key) =>
    let s := { s with tokens := s.tokens.insertIdx key.tokens .key }
    let s := s.roll key.cursor.column key.tokens .blockMappingStart
    .ok ((s.setKey none).takeMark 1 .value false)
  | _ => do
    if !s.inFlow && !s.keyAllowed then throw .misplacedIndicator
    let s := s.roll s.cursor.column s.tokens.length .blockMappingStart
    return s.takeMark 1 .value (!s.inFlow)

/-- Takes an anchor or alias. -/
def takeAnchor (s : Scanner) (token : String → Token) : Except Fault Scanner := do
  let s ← s.saveKey
  let (name, cursor) ← readAnchor (s.cursor.skip 1)
  return { s.push (token name) with cursor, keyAllowed := false }

/-- Takes a tag. -/
def takeTag (s : Scanner) : Except Fault Scanner := do
  let s ← s.saveKey
  let (token, cursor) ← readTag s.cursor s.inFlow
  return { s.push token with cursor, keyAllowed := false }

/-- Takes a block scalar. -/
def takeBlock (s : Scanner) (folds : Bool) : Except Fault Scanner := do
  let s ← s.dropKey
  let (text, cursor) ← readBlock folds s.indent s.cursor
  return { s.push (.scalar text (if folds then .folded else .literal)) with
    cursor, keyAllowed := true }

/-- Takes a quoted scalar. -/
def takeQuoted (s : Scanner) (single : Bool) : Except Fault Scanner := do
  let s ← s.saveKey
  let (text, cursor) ← readQuoted single s.cursor
  return { s.push (.scalar text (if single then .singleQuoted else .doubleQuoted)) with
    cursor, keyAllowed := false }

/-- Takes a plain scalar. -/
def takePlain (s : Scanner) : Except Fault Scanner := do
  let s ← s.saveKey
  let plain ← readPlain s.inFlow (s.indent + 1).toNat s.cursor
  return { s.push (.scalar plain.text .plain) with
    cursor := plain.cursor, keyAllowed := plain.crossed }

/-- Characters that start no plain scalar, unless what follows allows it. -/
def isIndicator (c : Char) : Bool := "-?:,[]\x7b\x7d#&*!|>'\"%@\x60".toList.contains c

/-- Takes the token that starts with a character. -/
def takeToken (s : Scanner) (char : Char) : Except Fault Scanner :=
  let next := s.cursor.ahead? 1
  let inFlow := s.inFlow
  if s.cursor.column == 0 && char == '%' then s.takeDirective
  else if s.cursor.isAtMark '-' then s.takeBoundary .documentStart
  else if s.cursor.isAtMark '.' then s.takeBoundary .documentEnd
  else if char == '[' then s.takeOpening .flowSequenceStart
  else if char == '\x7b' then s.takeOpening .flowMappingStart
  else if char == ']' then s.takeClosing .flowSequenceEnd
  else if char == '\x7d' then s.takeClosing .flowMappingEnd
  else if char == ',' then do return (← s.dropKey).takeMark 1 .flowEntry true
  else if char == '-' && endsWord next then s.takeEntry
  else if char == '?' && (inFlow || endsWord next) then s.takeKey
  else if char == ':' && (inFlow || endsWord next) then s.takeValue
  else if char == '*' then s.takeAnchor .alias
  else if char == '&' then s.takeAnchor .anchor
  else if char == '!' then s.takeTag
  else if char == '|' && !inFlow then s.takeBlock false
  else if char == '>' && !inFlow then s.takeBlock true
  else if char == '\'' then s.takeQuoted true
  else if char == '"' then s.takeQuoted false
  else if !(isSpace char || isIndicator char) || (char == '-' && !next.any isSpace)
      || (!inFlow && (char == '?' || char == ':') && !endsWord next) then
    s.takePlain
  else .error .unexpectedCharacter

/-- Takes the tokens of a text, at most `fuel` of them. -/
def run : Nat → Scanner → Except Fault (List Token)
  | 0, s => .ok s.tokens
  | fuel + 1, s => do
    let s ← (s.skipToToken (s.cursor.rest.length + 1)).dropStaleKeys
    let s := s.unroll s.cursor.column
    match s.cursor.next? with
    | none => return (← (s.unroll (-1)).dropKey).tokens
    | some char => (← s.takeToken char).run fuel

end Scanner

/-- The tokens of a text. -/
def Token.ofText (text : List Char) : Except Fault (List Token) :=
  if text.all isAllowed then (Scanner.ofText text).run (text.length + 1)
  else .error .forbiddenCharacter

end NetSession.Yaml
