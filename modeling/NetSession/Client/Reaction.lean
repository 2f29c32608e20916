import NetSession.Console.Notice
import NetSession.Text.Utf8

/-!
# Callbacks and reactions of clients

A client tells its handler what happens by callbacks, one at a time. The handler has a memory of its
own, and answers a callback with a `Reaction`: a tree of things to do, where what comes next may
depend on how the one before went.
-/

namespace NetSession.Client

/-- How a client stands to its server. -/
inductive State where
  /-- There is no connection; the next tick may try to make one. -/
  | disconnected
  /-- A connection is being made. -/
  | connecting
  /-- There is a connection. -/
  | connected
  /-- The connection is being closed. -/
  | closing
  deriving DecidableEq, Repr

/-- The name of a state. -/
def State.name : State → String
  | .disconnected => "Disconnected"
  | .connecting => "Connecting"
  | .connected => "Connected"
  | .closing => "Closing"

/-- What a client tells its handler. -/
inductive Callback where
  /-- The connection was made. -/
  | connected
  /-- No connection could be made. -/
  | connectFailed (cause : String)
  /-- Bytes were read. -/
  | received (data : Bytes)
  /-- The connection is about to be closed. -/
  | closing
  /-- The connection is closed. -/
  | closed
  /-- The heartbeat ticked while there was a connection, for the first time with index 0. -/
  | heartbeat (index : Nat)
  deriving DecidableEq, Repr

/-- What is done about a callback, ending with a value. -/
inductive Reaction (σ : Type) where
  /-- Nothing more. -/
  | done (value : σ)
  /-- Looks at the state. -/
  | look (next : State → Reaction σ)
  /-- Sends; the rest knows whether that worked. -/
  | send (data : Bytes) (next : Bool → Reaction σ)
  /-- Asks the client to shut down. -/
  | shutdown (next : Reaction σ)
  /-- Says something. -/
  | say (notice : Console.Notice) (next : Reaction σ)

/-- What a client calls, with a memory of type `σ`. -/
abbrev Handler (σ : Type) := Callback → σ → Reaction σ

/-- The handler that does nothing. -/
def Handler.silent : Handler Unit := fun _ _ => .done ()

end NetSession.Client
