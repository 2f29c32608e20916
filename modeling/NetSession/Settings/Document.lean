import NetSession.Settings.Basic
import NetSession.Text.Decimal
import NetSession.Yaml.Node

/-!
# Settings in a document

The sections and entries that a settings document may have. What it does not mention keeps its
value, a section may be left empty, and entries that are not known are passed over; a known entry
that is repeated or has a value of another kind is refused.

Numbers and truth values are plain scalars, or literal blocks that are tagged so. A number may have
a plus sign, and may be hexadecimal, octal or binary behind `0x`, `0o` or `0b`; leading zeros make
it a text.
-/

namespace NetSession.Settings

open Decimal (bound32 bound64)

open Yaml (Node Document)

/-- Why a document holds no settings. -/
inductive Fault where
  /-- The text is no document. -/
  | notDocument (cause : Yaml.Fault)
  /-- A node is no mapping, or one of its keys is no text. -/
  | notMapping
  /-- A known entry is repeated. -/
  | repeated (name : String)
  /-- The value of an entry is of another kind. -/
  | badValue (name : String)
  deriving DecidableEq, Repr

/-- The wording of a fault. -/
def Fault.message : Fault → String
  | .notDocument _ => "not a YAML document"
  | .notMapping => "expected a mapping of names"
  | .repeated name => "duplicate field " ++ name
  | .badValue name => "invalid value of " ++ name

/-- The name of the tag that YAML gives to a kind of value. -/
def standardTag (kind : String) : Bytes := Utf8.ofString ("tag:yaml.org,2002:" ++ kind)

/-- The text of a scalar that may be read as a value of a kind. -/
def bareText? (kind : String) : Node → Option (List Char)
  | .scalar text .plain _ => some text
  | .scalar text .literal (some tag) => if tag = standardTag kind then some text else none
  | _ => none

/-- The value of a digit below a base of at most sixteen. -/
def digitBelow? (base : Nat) (c : Char) : Option Nat :=
  (Yaml.hexDigit? c).bind fun d => if d < base then some d else none

/-- The value of digits of a base. -/
def digits? (base : Nat) (text : List Char) : Option Nat :=
  if text = [] then none
  else text.foldlM (fun n c => (digitBelow? base c).map (n * base + ·)) 0

/-- Whether digits start with a needless zero. -/
def hasNeedlessZero (text : List Char) : Bool :=
  let digits := match text with
    | '+' :: rest | '-' :: rest => rest
    | _ => text
  match digits with
  | '0' :: rest => !rest.isEmpty && rest.all Char.isDigit
  | _ => false

/-- The number that a text stands for. -/
def natural? (text : List Char) : Option Nat :=
  let unsigned := match text with
    | '+' :: rest => rest
    | _ => text
  match unsigned with
  | '0' :: 'x' :: digits => digits? 16 digits
  | '0' :: 'o' :: digits => digits? 8 digits
  | '0' :: 'b' :: digits => digits? 2 digits
  | _ => if hasNeedlessZero text then none else digits? 10 unsigned

/-- The truth value that a text stands for. -/
def truth? (text : List Char) : Option Bool :=
  if text ∈ ["true".toList, "True".toList, "TRUE".toList] then some true
  else if text ∈ ["false".toList, "False".toList, "FALSE".toList] then some false
  else none

/-- Reads a number below a bound. -/
def readNat (bound : Nat) (name : String) (node : Node) : Except Fault Nat :=
  match (bareText? "int" node).bind natural? with
  | some n => if n < bound then .ok n else .error (.badValue name)
  | none => .error (.badValue name)

/-- Reads a truth value. -/
def readBool (name : String) (node : Node) : Except Fault Bool :=
  match (bareText? "bool" node).bind truth? with
  | some b => .ok b
  | none => .error (.badValue name)

/-- Reads a text. -/
def readText (name : String) : Node → Except Fault String
  | .scalar text _ _ => .ok (String.ofList text)
  | _ => .error (.badValue name)

/-- The entries of a mapping, with their names; a plain scalar without text has none. -/
def entries (d : Document) (node : Node) : Except Fault (List (String × Node)) :=
  match node with
  | .mapping pairs => pairs.mapM fun (key, value) =>
      match d.follow key with
      | .scalar text _ _ => .ok (String.ofList text, d.follow value)
      | _ => .error .notMapping
  | .scalar [] .plain _ => .ok []
  | _ => .error .notMapping

/-- Reads the entries of a section one after the other; `put` gives the new section for an entry
that it knows. -/
def readEntries (put : String → Node → α → Option (Except Fault α)) :
    List String → List (String × Node) → α → Except Fault α
  | _, [], section_ => .ok section_
  | seen, (name, node) :: rest, section_ =>
    match put name node section_ with
    | none => readEntries put seen rest section_
    | some result =>
      if name ∈ seen then .error (.repeated name)
      else do readEntries put (name :: seen) rest (← result)

/-- Reads a section. -/
def readSection (d : Document) (put : String → Node → α → Option (Except Fault α)) (initial : α)
    (node : Node) : Except Fault α := do
  readEntries put [] (← entries d node) initial

/-- An entry of the server's section. -/
def Server.put (name : String) (node : Node) (s : Server) : Option (Except Fault Server) :=
  match name with
  | "listen" => some do return { s with listen := ← readText name node }
  | "expected_connections" =>
    some do return { s with expectedConnections := ← readNat bound64 name node }
  | "listen_backlog" => some do return { s with listenBacklog := ← readNat bound32 name node }
  | "conn_extra_size" => some do return { s with connExtraSize := ← readNat bound64 name node }
  | "conn_timeout_secs" => some do return { s with connTimeoutSecs := ← readNat bound64 name node }
  | "heartbeat_secs" => some do return { s with heartbeatSecs := ← readNat bound64 name node }
  | _ => none

/-- An entry of the client's section. -/
def Client.put (name : String) (node : Node) (s : Client) : Option (Except Fault Client) :=
  match name with
  | "connect" => some do return { s with connect := ← readText name node }
  | "auto_connect" => some do return { s with autoConnect := ← readBool name node }
  | "heartbeat_secs" => some do return { s with heartbeatSecs := ← readNat bound64 name node }
  | _ => none

/-- An entry of the section on datagrams. -/
def Udp.put (name : String) (node : Node) (s : Udp) : Option (Except Fault Udp) :=
  match name with
  | "bind" => some do return { s with bind := ← readText name node }
  | "recv_buffer_size" => some do return { s with recvBufferSize := ← readNat bound64 name node }
  | _ => none

/-- An entry of the section on log records. -/
def Log.put (name : String) (node : Node) (s : Log) : Option (Except Fault Log) :=
  match name with
  | "target" => some do return { s with target := ← readText name node }
  | "name" => some do return { s with name := ← readText name node }
  | "bench" => some do return { s with bench := ← readNat bound32 name node }
  | "interval_secs" => some do return { s with intervalSecs := ← readNat bound64 name node }
  | _ => none

/-- A section of a document. -/
def put (d : Document) (name : String) (node : Node) (s : Settings) :
    Option (Except Fault Settings) :=
  match name with
  | "server" => some do return { s with server := ← readSection d Server.put {} node }
  | "client" => some do return { s with client := ← readSection d Client.put {} node }
  | "udp" => some do return { s with udp := ← readSection d Udp.put {} node }
  | "log" => some do return { s with log := ← readSection d Log.put {} node }
  | _ => none

/-- The settings in a text. -/
def ofText (text : String) : Except Fault Settings :=
  match Document.ofText text.toList with
  | .error cause => .error (.notDocument cause)
  | .ok d =>
    match d.root with
    | none => .ok {}
    | some root => readSection d (put d) {} root

end NetSession.Settings
