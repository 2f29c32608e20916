import NetSession.Connection.Basic
import Std.Data.TreeMap

/-!
# Pools

The connections that some reference is held to, and the mailbox that their requests to be closed go
to. A pool tells connections apart by reference, not by number: two connections may have the same
number.
-/

namespace NetSession

/-- A reference to a connection. -/
abbrev Ref := Nat

/-- Connections that share a mailbox. -/
structure Pool where
  /-- The connections. -/
  connections : Std.TreeMap Ref Connection := ∅
  /-- The numbers of the connections that asked to be closed, in order. -/
  requests : List ConnId := []

namespace Pool

/-- A pool without connections. -/
def empty : Pool := {}

instance : Inhabited Pool := ⟨empty⟩

/-- The connection behind a reference. -/
def get? (pool : Pool) (ref : Ref) : Option Connection := pool.connections[ref]?

/-- Puts a connection behind a reference. -/
def set (pool : Pool) (ref : Ref) (c : Connection) : Pool :=
  { pool with connections := pool.connections.insert ref c }

/-- Changes the connection behind a reference. -/
def modify (pool : Pool) (ref : Ref) (f : Connection → Connection) : Pool :=
  match pool.get? ref with
  | some c => pool.set ref (f c)
  | none => pool

/-- Queues a payload on a connection. -/
def send (pool : Pool) (ref : Ref) (data : Bytes) : Except Closed Unit × Pool :=
  match pool.get? ref with
  | none => (.error .connection, pool)
  | some c =>
    match c.send data with
    | .ok c => (.ok (), pool.set ref c)
    | .error e => (.error e, pool)

/-- Asks the server of a connection to close it. -/
def askClose (pool : Pool) (ref : Ref) : Except Closed Unit × Pool :=
  match pool.get? ref with
  | none => (.error .server, pool)
  | some c =>
    if c.served then (.ok (), { pool with requests := pool.requests ++ [c.id] })
    else (.error .server, pool)

/-- Begins to close a connection; says whether it had not begun before. -/
def beginClose (pool : Pool) (ref : Ref) : Bool × Pool :=
  match pool.get? ref with
  | none => (false, pool)
  | some c => (c.beginClose.1, pool.set ref c.beginClose.2)

/-- All requests that were not taken yet, which are now. -/
def takeRequests (pool : Pool) : List ConnId × Pool := (pool.requests, { pool with requests := [] })

/-- The pool once the server is gone: no connection can ask to be closed any more. -/
def abandon (pool : Pool) : Pool :=
  { connections := pool.connections.map fun _ c => { c with served := false }
    requests := [] }

end Pool

end NetSession
