import NetSession.Text.Utf8

/-!
# Links

What the owner of a byte stream shares with the task that moves its bytes: the queue of payloads to
be written, and the signal to stop. The signal is kept until the task takes it, so it can be given
before the task looks for it; given twice, it is there once.
-/

namespace NetSession

/-- What the owner of a stream shares with its task. -/
structure Link where
  /-- The payloads that wait to be written, in order; `none` once nobody will write them. -/
  queue : Option (List Bytes) := some []
  /-- Whether the signal to stop is there. -/
  stop : Bool := false
  deriving DecidableEq, Repr

namespace Link

/-- Puts a payload at the end of the queue; fails once nobody will write it. -/
def push? (link : Link) (data : Bytes) : Option Link :=
  link.queue.map fun waiting => { link with queue := some (waiting ++ [data]) }

/-- Takes the payload that has waited longest. -/
def pop? (link : Link) : Option (Bytes × Link) :=
  match link.queue with
  | some (data :: rest) => some (data, { link with queue := some rest })
  | _ => none

/-- Gives the signal to stop. -/
def signal (link : Link) : Link := { link with stop := true }

/-- Takes the signal to stop. -/
def takeStop (link : Link) : Link := { link with stop := false }

/-- Gives up the queue, with all that waits in it. -/
def hangUp (link : Link) : Link := { link with queue := none }

end Link

end NetSession
