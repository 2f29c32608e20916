import NetSession.Calendar
import NetSession.Record.Decode
import NetSession.Text.Quoted

/-!
# Log items

What a record says, as values of its own: the header's identity fields and the texts, with a binary
message made readable. An item has two written forms, a line for people (`Item.summary`) and a line
of JSON (`Item.json`).
-/

namespace NetSession

/-- What a record says. -/
structure Item where
  /-- The format version. -/
  version : UInt8
  /-- The severity. -/
  level : Level
  /-- Seconds since 1970, in universal time. -/
  time : Int32
  /-- The process of the emitter. -/
  pid : Int32
  /-- The thread of the caller. -/
  tid : Int32
  /-- The line in the source file. -/
  line : Int32
  /-- The emitter's name. -/
  name : String
  /-- The tags. -/
  tags : String
  /-- The shortened source file. -/
  file : String
  /-- The message, with replacement characters where it is no text. -/
  message : String
  deriving DecidableEq, Repr

/-- The item of a record whose name, tags and file are text. -/
def Record.item (r : Record) : Except Record.Fault Item := do
  return {
    version := r.header.version
    level := r.header.level
    time := r.header.time
    pid := r.header.pid
    tid := r.header.tid
    line := r.header.line
    name := ← r.name
    tags := ← r.tags
    file := ← r.file
    message := String.ofList (Utf8.decodeLossy (← r.messageBytes)) }

namespace Item

/-- The written form of a signed word. -/
def signed (n : Int32) : String := toString n.toInt

/-- The line for people. -/
def summary (item : Item) : String :=
  let time := String.ofList (Calendar.ofSeconds item.time.toInt).render
  "[" ++ item.level.label ++ "] " ++ time ++ " " ++ item.name
    ++ " pid=" ++ signed item.pid ++ " tid=" ++ signed item.tid
    ++ " " ++ item.file ++ ":" ++ signed item.line
    ++ " tags=" ++ item.tags ++ " " ++ item.message

/-- One character inside a JSON string: quotes, backslashes and control characters are escaped. -/
def jsonChar (c : Char) : List Char :=
  if c = '"' then ['\\', '"']
  else if c = '\\' then ['\\', '\\']
  else if c = '\x08' then ['\\', 'b']
  else if c = '\x0c' then ['\\', 'f']
  else if c = '\n' then ['\\', 'n']
  else if c = '\r' then ['\\', 'r']
  else if c = '\t' then ['\\', 't']
  else if c.toNat < 0x20 then
    ['\\', 'u', '0', '0', Nat.digitChar (c.toNat / 16), Nat.digitChar (c.toNat % 16)]
  else [c]

/-- A JSON string. -/
def jsonString (text : String) : String :=
  String.ofList ('"' :: text.toList.flatMap jsonChar ++ ['"'])

/-- The line of JSON. -/
def json (item : Item) : String :=
  let members := [
    ("version", toString item.version.toNat),
    ("level", toString item.level.value.toInt),
    ("time", signed item.time),
    ("pid", signed item.pid),
    ("tid", signed item.tid),
    ("line", signed item.line),
    ("name", jsonString item.name),
    ("tags", jsonString item.tags),
    ("file", jsonString item.file),
    ("message", jsonString item.message)]
  "\x7b" ++ ",".intercalate (members.map fun (key, value) => jsonString key ++ ":" ++ value)
    ++ "\x7d"

end Item

end NetSession
