import NetSession.Connection.Table

/-!
# Rosters

A pool of connections with the table of those that are live. The time of a connection's last read
stands in the connection, where everyone sees it, and its order among the others in the table;
`insert` and `touch` set both.
-/

namespace NetSession

/-- Connections, and the table of the live ones. -/
structure Roster where
  /-- All connections. -/
  pool : Pool := {}
  /-- The live ones. -/
  table : Table := {}

namespace Roster

/-- A roster without connections. -/
def empty : Roster := {}

instance : Inhabited Roster := ⟨empty⟩

/-- Puts a connection at the tail of the table, as read at a moment. -/
def insert (r : Roster) (ref : Ref) (now : Instant) : Roster :=
  match r.pool.get? ref with
  | none => r
  | some c => { pool := r.pool.set ref (c.stamp now), table := r.table.insert c.id ref }

/-- Moves a connection to the tail of the table, as read at a moment. -/
def touch (r : Roster) (id : ConnId) (now : Instant) : Option Ref × Roster :=
  let (found, table) := r.table.touch id
  match found with
  | none => (none, { r with table := table })
  | some ref => (some ref, { pool := r.pool.modify ref (·.stamp now), table := table })

/-- Takes a connection out of the table. -/
def remove (r : Roster) (id : ConnId) : Option Ref × Roster :=
  let (found, table) := r.table.remove id
  (found, { r with table := table })

/-- The live connection of a number, with its reference. -/
def get? (r : Roster) (id : ConnId) : Option (Ref × Connection) := do
  let ref ← r.table.get? id
  return (ref, ← r.pool.get? ref)

/-- The connections at the head of the table that have been silent for longer than a span. -/
def expired (r : Roster) (now : Instant) (timeout : Duration) : List Ref :=
  r.table.expired r.pool now timeout

end Roster

end NetSession
