import NetSession.Text.Quoted

/-!
# Notices

What the tools say while they run. A notice has a severity and named values, of which the message
and the component are shown: `[time] [component] [severity] message`. Component and severity are
columns of fixed width.

A value reaches the notice as a text or as something that was shown by its own rule; the latter
loses the quotes around it, since text that is shown by a rule stands in quotes.
-/

namespace NetSession.Console

/-- How much a notice matters. -/
inductive Severity where
  /-- The finest detail. -/
  | trace
  /-- Detail. -/
  | debug
  /-- What happens. -/
  | info
  /-- What should not happen. -/
  | warn
  /-- What went wrong. -/
  | error
  deriving DecidableEq, Repr

/-- Whether a notice is at least informative. -/
def Severity.isInformative : Severity → Bool
  | .trace | .debug => false
  | .info | .warn | .error => true

/-- A value as a notice receives it. -/
inductive Value where
  /-- A text. -/
  | text (text : String)
  /-- What a rule of its own made of something. -/
  | shown (text : String)
  deriving DecidableEq, Repr

/-- A text without the quotes around it, if it has both. -/
def unquote (text : String) : String :=
  match text.toList with
  | '"' :: rest =>
    match rest.reverse with
    | '"' :: inner => String.ofList inner.reverse
    | _ => text
  | _ => text

/-- What is shown of a value. -/
def Value.render : Value → String
  | .text s => s
  | .shown s => unquote s

/-- The part of the program that says something. -/
inductive Origin where
  /-- The tools themselves. -/
  | tools
  /-- The reader of settings. -/
  | settings
  /-- A server. -/
  | server
  /-- A client. -/
  | client
  /-- A datagram transport. -/
  | transport
  /-- A sender of log records. -/
  | sender
  /-- The reader of log records. -/
  | records
  deriving DecidableEq, Repr

/-- The path of a part, by which filters name it. -/
def Origin.path : Origin → String
  | .tools => "uvx"
  | .settings => "uvx::config"
  | .server => "uvx_session::server"
  | .client => "uvx_session::client"
  | .transport => "uvx_session::udp"
  | .sender => "uvx_session::log"
  | .records => "uvx_wire::record"

/-- Something said. -/
structure Notice where
  /-- Who says it. -/
  origin : Origin
  /-- How much it matters. -/
  severity : Severity
  /-- The named values, in order. -/
  values : List (String × Value)
  deriving DecidableEq, Repr

namespace Notice

/-- What is shown of the last value of a name. -/
def last? (notice : Notice) (name : String) : Option String :=
  (notice.values.reverse.lookup name).map Value.render

/-- The message; empty if there is none. -/
def message (notice : Notice) : String := (notice.last? "message").getD ""

/-- The component. -/
def component? (notice : Notice) : Option String := notice.last? "component"

/-- A notice with a message. -/
def say (origin : Origin) (severity : Severity) (message : String) : Notice :=
  ⟨origin, severity, [("message", .shown message)]⟩

/-- A notice that a component of the tools says. -/
def ofComponent (component : String) (severity : Severity) (message : String) : Notice :=
  ⟨.tools, severity, [("component", .text component), ("message", .shown message)]⟩

end Notice

/-- The width of the component's column. -/
def componentWidth : Nat := 12

/-- The width of the severity's column. -/
def severityWidth : Nat := 7

/-- A text in a column of at least `width` characters. -/
def padRight (width : Nat) (text : String) : String :=
  String.ofList (text.toList ++ List.replicate (width - text.length) ' ')

/-- The component's column: the name of the service, with the component behind a dash, cut with an
ellipsis if it is too long. -/
def componentColumn (service : String) (component? : Option String) : String :=
  let name := match component? with
    | some component => service ++ "-" ++ component
    | none => service
  if componentWidth < name.length then
    String.ofList (name.toList.take (componentWidth - 1) ++ ['…'])
  else padRight componentWidth name

/-- The mark and name of a severity. -/
def Severity.label : Severity → String
  | .error => "✗ ERROR"
  | .warn => "⚠ WARN"
  | .info => "ℹ INFO"
  | .debug => "◦ DEBUG"
  | .trace => "◦ TRACE"

/-- The colour of a severity on a terminal. -/
def Severity.color : Severity → String
  | .error => "\x1b[91m"
  | .warn => "\x1b[93m"
  | .info => "\x1b[32m"
  | .debug | .trace => "\x1b[90m"

/-- How notices are shown. -/
structure Style where
  /-- The name of the service. -/
  service : String
  /-- Whether the terminal has colours. -/
  color : Bool
  deriving DecidableEq, Repr

/-- The style of the tools where there is no terminal. -/
def Style.plain : Style := ⟨"uvx", false⟩

/-- The columns of a notice behind the time, and its message. -/
def Style.body (style : Style) (notice : Notice) : String :=
  let paint (code : String) : String := if style.color then code else ""
  "[" ++ componentColumn style.service notice.component? ++ "] ["
    ++ paint notice.severity.color ++ padRight severityWidth notice.severity.label
    ++ paint "\x1b[0m" ++ "] " ++ notice.message ++ paint "\x1b[0m"

/-- The line of a notice at a time. -/
def Style.line (style : Style) (time : String) (notice : Notice) : String :=
  (if style.color then "\x1b[36m" else "") ++ "[" ++ time ++ "] " ++ style.body notice ++ "\n"

end NetSession.Console
