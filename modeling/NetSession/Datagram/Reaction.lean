import NetSession.Clock
import NetSession.Console.Notice
import NetSession.Endpoint.Basic
import NetSession.Text.Utf8

/-!
# Datagrams and what is done about them

A transport tells its handler of every datagram. The handler has a memory of its own, and answers
with a `Reaction`: a tree of things to do, where what comes next may depend on how the one before
went, and where something can be put off to later.
-/

namespace NetSession

/-- A datagram with the address at the other end. -/
structure Datagram where
  /-- Where it goes to, or comes from. -/
  peer : Endpoint
  /-- What it holds. -/
  data : Bytes
  deriving DecidableEq

namespace Datagram

/-- What a transport tells its handler: a datagram, and whether it filled the buffer, so that some
of it may be missing. -/
structure Callback where
  /-- The datagram. -/
  datagram : Datagram
  /-- Whether it filled the buffer. -/
  filled : Bool
  deriving DecidableEq

/-- What is done later, apart from the rest. -/
inductive Task where
  /-- Nothing more. -/
  | done
  /-- Sends a datagram; the rest knows whether that worked. -/
  | send (datagram : Datagram) (next : Bool → Task)
  /-- Says something. -/
  | say (notice : Console.Notice) (next : Task)

/-- What is done about a datagram, ending with a value. -/
inductive Reaction (σ : Type) where
  /-- Nothing more. -/
  | done (value : σ)
  /-- Sends a datagram; the rest knows whether that worked. -/
  | send (datagram : Datagram) (next : Bool → Reaction σ)
  /-- Puts something off. -/
  | later (delay : Duration) (task : Task) (next : Reaction σ)
  /-- Prints a line. -/
  | print (line : String) (next : Reaction σ)
  /-- Says something. -/
  | say (notice : Console.Notice) (next : Reaction σ)

/-- What a transport calls, with a memory of type `σ`. -/
abbrev Handler (σ : Type) := Callback → σ → Reaction σ

/-- The handler that does nothing. -/
def Handler.silent : Handler Unit := fun _ _ => .done ()

end Datagram

end NetSession
