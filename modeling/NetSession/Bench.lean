import NetSession.Record.Emitter

/-!
# Bench records

The records that a log client sends in rounds.
-/

namespace NetSession.Bench

/-- The level of the record at a place in a round: four levels in turn. -/
def level (i : Nat) : Level :=
  match i % 4 with
  | 0 => .debug
  | 1 => .info
  | 2 => .warn
  | _ => .error

/-- The tags of every record. -/
def tags : String := "uvx,bench"

/-- The place that every record names as its source. -/
def site : String := "net/bench/round"

/-- The message of a record. -/
def message (round i count : Nat) : String :=
  "round " ++ toString round ++ " record " ++ toString (i + 1) ++ " of " ++ toString count

/-- What the record at a place in a round says. -/
def entry (round i count : Nat) : Emitter.Entry :=
  ⟨level i, tags, .text (message round i count), site, 1⟩

end NetSession.Bench
