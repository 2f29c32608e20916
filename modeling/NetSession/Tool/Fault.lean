import NetSession.Record.Sender

/-!
# Why a tool ends

Each fault has a chain of wordings: its own, and those of its causes.
-/

namespace NetSession.Tool

/-- Why a tool cannot run, or ends early. -/
inductive Fault where
  /-- An address is none. -/
  | endpoint (fault : Endpoint.Fault)
  /-- A listener cannot be started. -/
  | listen (address : Endpoint) (cause : String)
  /-- A datagram socket cannot be bound. -/
  | bind (address : Endpoint) (cause : String)
  /-- A record cannot be written. -/
  | record (fault : Record.Fault)
  /-- Something that is needed is gone. -/
  | closed (who : Closed)
  deriving DecidableEq

/-- The wording of a fault, followed by those of its causes. -/
def Fault.chain : Fault → List String
  | .endpoint fault => fault.chain
  | .listen address cause => ["listen on " ++ address.text ++ " failed: " ++ cause, cause]
  | .bind address cause => ["bind " ++ address.text ++ " failed: " ++ cause, cause]
  | .record fault => [fault.message]
  | .closed who => [who.message]

/-- The fault behind a record that was not sent. -/
def Fault.ofSender : LogSender.Fault → Fault
  | .record fault => .record fault
  | .closed who => .closed who

/-- A chain of wordings as the error report of a program: the first on a line, the causes below,
numbered if there are several. -/
def report (chain : List String) : List String :=
  match chain with
  | [] => []
  | [only] => ["Error: " ++ only]
  | [first, cause] => ["Error: " ++ first, "", "Caused by:", "    " ++ cause]
  | first :: causes =>
    ["Error: " ++ first, "", "Caused by:"]
      ++ causes.zipIdx.map fun (cause, i) => "    " ++ toString i ++ ": " ++ cause

end NetSession.Tool
