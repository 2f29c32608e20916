import NetSession.Connection.Pool

/-!
# The table of live connections

A server finds its connections by number, and visits them in the order in which they were last read
from. Two maps keep this: from a number to the reference and its place, and from a place to the
number. Places are handed out in ascending order, so an entry that is given a new place moves to the
tail. The sweep for silent connections stops at the first one that is not: those behind it were read
from more recently.

`Table.toList` is the table as a list, from the least to the most recently read.
-/

namespace NetSession

/-- What a table has for a number. -/
structure Table.Entry where
  /-- The reference to the connection. -/
  ref : Ref
  /-- Its place in the order of reads. -/
  place : Nat
  deriving DecidableEq, Repr

/-- Live connections in the order of their last reads. -/
structure Table where
  /-- The entries by number. -/
  entries : Std.TreeMap ConnId Table.Entry := ∅
  /-- The numbers by place. -/
  order : Std.TreeMap Nat ConnId := ∅
  /-- The place that is handed out next. -/
  nextPlace : Nat := 0

namespace Table

/-- A table without connections. -/
def empty : Table := {}

instance : Inhabited Table := ⟨empty⟩

/-- Puts a connection at the tail. One that had the number before is dropped. -/
def insert (t : Table) (id : ConnId) (ref : Ref) : Table :=
  -- The place of an entry that is replaced is given up, or the number would have two places.
  let order := match t.entries[id]? with
    | some old => t.order.erase old.place
    | none => t.order
  { entries := t.entries.insert id ⟨ref, t.nextPlace⟩
    order := order.insert t.nextPlace id
    nextPlace := t.nextPlace + 1 }

/-- Takes a connection out, and gives the reference that the table had. -/
def remove (t : Table) (id : ConnId) : Option Ref × Table :=
  match t.entries[id]? with
  | none => (none, t)
  | some entry =>
    (some entry.ref,
      { t with entries := t.entries.erase id, order := t.order.erase entry.place })

/-- Moves a connection to the tail, and gives the reference to it. A place is handed out even if
there is no such connection. -/
def touch (t : Table) (id : ConnId) : Option Ref × Table :=
  match t.entries[id]? with
  | none => (none, { t with nextPlace := t.nextPlace + 1 })
  | some entry =>
    (some entry.ref,
      { entries := t.entries.insert id { entry with place := t.nextPlace }
        order := (t.order.erase entry.place).insert t.nextPlace id
        nextPlace := t.nextPlace + 1 })

/-- The reference for a number. -/
def get? (t : Table) (id : ConnId) : Option Ref := t.entries[id]?.map (·.ref)

/-- The number of connections. -/
def size (t : Table) : Nat := t.entries.size

/-- Whether there are no connections. -/
def isEmpty (t : Table) : Bool := t.entries.isEmpty

/-- The numbers with their references, from the least to the most recently read. -/
def toList (t : Table) : List (ConnId × Ref) :=
  t.order.values.filterMap fun id => (t.get? id).map (id, ·)

/-- The numbers, from the least to the most recently read. -/
def ids (t : Table) : List ConnId := t.toList.map (·.1)

/-- The references, from the least to the most recently read. -/
def refs (t : Table) : List Ref := t.toList.map (·.2)

/-- How many references the table holds to a connection. -/
def refCount (t : Table) (ref : Ref) : Nat := t.entries.values.countP (·.ref == ref)

/-- Whether a connection has been silent for longer than a span. -/
def isSilent (pool : Pool) (now : Instant) (timeout : Duration) (ref : Ref) : Bool :=
  match pool.get? ref with
  | some c => timeout.nanos < (c.idle now).nanos
  | none => false

/-- The connections at the head that have been silent for longer than a span. -/
def expired (t : Table) (pool : Pool) (now : Instant) (timeout : Duration) : List Ref :=
  t.refs.takeWhile (isSilent pool now timeout)

end Table

end NetSession
