import NetSession.Connection.Basic
import NetSession.Console.Notice

/-!
# Callbacks and reactions of servers

A server tells its handler what happens by callbacks, one at a time. The handler has a memory of its
own, and answers a callback with a `Reaction`: a tree of things to do, where what comes next may
depend on how the one before went. Reactions name connections by number, which a server never gives
twice.
-/

namespace NetSession.Server

/-- What a server tells its handler. -/
inductive Callback where
  /-- A connection was accepted, and is in the table. -/
  | accepted (id : ConnId)
  /-- No connection could be accepted; the server goes on. -/
  | acceptFailed (cause : String)
  /-- Bytes were read from a connection. -/
  | received (id : ConnId) (data : Bytes)
  /-- A connection is about to be closed. -/
  | closing (id : ConnId)
  /-- A connection's socket is closed; it leaves the table afterwards. -/
  | closed (id : ConnId)
  /-- The heartbeat ticked, for the first time with index 0, while these connections were in the
  table, from the least to the most recently read. -/
  | heartbeat (index : Nat) (live : List ConnId)
  deriving DecidableEq, Repr

/-- What is done about a callback, ending with a value. -/
inductive Reaction (σ : Type) where
  /-- Nothing more. -/
  | done (value : σ)
  /-- Looks at a connection. -/
  | look (id : ConnId) (next : Option Connection → Reaction σ)
  /-- Sends on a connection; the rest knows whether that worked. -/
  | send (id : ConnId) (data : Bytes) (next : Bool → Reaction σ)
  /-- Asks for a connection to be closed; the rest knows whether that worked. -/
  | close (id : ConnId) (next : Bool → Reaction σ)
  /-- Writes over the start of the extension block of a connection. -/
  | writeExtra (id : ConnId) (data : Bytes) (next : Reaction σ)
  /-- Keeps one more reference to a connection. -/
  | keep (id : ConnId) (next : Reaction σ)
  /-- Gives one kept reference to a connection back. -/
  | release (id : ConnId) (next : Reaction σ)
  /-- Says something. -/
  | say (notice : Console.Notice) (next : Reaction σ)

/-- What a server calls, with a memory of type `σ`. -/
abbrev Handler (σ : Type) := Callback → σ → Reaction σ

/-- The handler that does nothing. -/
def Handler.silent : Handler Unit := fun _ _ => .done ()

end NetSession.Server
