import NetSession.Stream.Link

/-!
# Byte streams

The task that moves bytes between a socket and the owner of a stream. Over and over it looks at
three things in turn: whether it is told to stop, whether a payload waits to be written, and what
the socket has. A payload is written to its end before anything else is looked at. When the peer is
at its end, or the socket fails, the task reports that and waits to be told to stop. In the end it
closes the socket, reports that as well, and gives up the queue.

The task reports to its owner. Once the owner is gone nothing is heard any more: the task then
closes the socket as soon as it has something to report.

`Stream.step` is one step of the task; `Stream.Move` says which, and what the socket answers.
-/

namespace NetSession

namespace Stream

/-- What the task looks at next. -/
inductive Turn where
  /-- The signal to stop. -/
  | stop
  /-- The queue of payloads. -/
  | queue
  /-- The socket. -/
  | socket
  deriving DecidableEq, Repr

/-- How far the task is. -/
inductive Phase where
  /-- It looks for something to do. -/
  | looking (turn : Turn)
  /-- It writes the rest of a payload. -/
  | writing (rest : Bytes)
  /-- It has reported the end, and waits for the signal to stop. -/
  | waiting
  /-- It is about to close the socket. -/
  | shutting
  /-- It has closed the socket, and is about to report that. -/
  | reporting
  /-- It has reported everything, and is about to end. -/
  | leaving
  /-- It has ended. -/
  | ended
  deriving DecidableEq, Repr

/-- What the task tells the owner. -/
inductive Report where
  /-- Bytes were read. -/
  | read (data : Bytes)
  /-- The peer is at its end, or there was a failure. -/
  | ended (failure : Option String)
  /-- The socket is closed. -/
  | closed
  deriving DecidableEq, Repr

/-- A step of the task. -/
inductive Move where
  /-- The next step that needs no bytes to move. -/
  | go
  /-- So many bytes are read. -/
  | read (count : Nat)
  /-- So many bytes are written. -/
  | write (count : Nat)
  /-- A write fails. -/
  | fail (cause : String)
  deriving DecidableEq, Repr

/-- The most bytes that are read at once. -/
def readSize : Nat := 65536

end Stream

/-- A task with its socket. -/
structure Stream where
  /-- How far the task is. -/
  phase : Stream.Phase := .looking .stop
  /-- What has arrived at the socket and was not read yet. -/
  arrived : Bytes := []
  /-- What comes after that: nothing is known yet, the end of the peer, or a failure. -/
  ending : Option (Option String) := none
  /-- Everything that was read. -/
  taken : Bytes := []
  /-- Everything that was written. -/
  written : Bytes := []
  /-- Whether the socket is closed. -/
  shut : Bool := false
  deriving DecidableEq, Repr

namespace Stream

/-- Bytes arrive at the socket. -/
def arrive (s : Stream) (data : Bytes) : Stream :=
  if s.ending.isSome then s else { s with arrived := s.arrived ++ data }

/-- The peer is at its end. -/
def finish (s : Stream) : Stream := if s.ending.isSome then s else { s with ending := some none }

/-- The socket fails, and what was not read is lost. -/
def fail (s : Stream) (cause : String) : Stream :=
  { s with arrived := [], ending := some (some cause) }

/-- What a step leaves: the stream, its link, and what is reported. -/
abbrev Outcome := Stream × Link × Option Report

/-- Reports the end and waits, or goes on to close the socket if nobody hears it. -/
def reportEnd (s : Stream) (link : Link) (heard : Bool) (failure : Option String) : Outcome :=
  if heard then ({ s with phase := .waiting }, link, some (.ended failure))
  else ({ s with phase := .shutting }, link, none)

/-- The next step that needs no bytes to move, if there is one. -/
def go (s : Stream) (link : Link) (heard : Bool) : Option Outcome :=
  match s.phase with
  | .looking .stop =>
    if link.stop then some ({ s with phase := .shutting }, link.takeStop, none)
    else some ({ s with phase := .looking .queue }, link, none)
  | .looking .queue =>
    match link.pop? with
    | some (data, link) => some ({ s with phase := .writing data }, link, none)
    | none => some ({ s with phase := .looking .socket }, link, none)
  | .looking .socket =>
    -- What has arrived is read before the end is seen.
    match s.arrived, s.ending with
    | [], none => some ({ s with phase := .looking .stop }, link, none)
    | [], some failure => some (s.reportEnd link heard failure)
    | _ :: _, _ => none
  | .writing [] => some ({ s with phase := .looking .stop }, link, none)
  | .writing (_ :: _) => none
  | .waiting =>
    if link.stop then some ({ s with phase := .shutting }, link.takeStop, none)
    else if heard then none
    -- Nobody is left to give the signal.
    else some ({ s with phase := .shutting }, link, none)
  | .shutting => some ({ s with phase := .reporting, shut := true }, link, none)
  | .reporting =>
    some ({ s with phase := .leaving }, link, if heard then some .closed else none)
  | .leaving => some ({ s with phase := .ended }, link.hangUp, none)
  | .ended => none

/-- Reads some of what has arrived, if it is time to. -/
def read (s : Stream) (link : Link) (heard : Bool) (count : Nat) : Option Outcome :=
  if s.phase = .looking .socket ∧ 0 < count ∧ count ≤ readSize ∧ count ≤ s.arrived.length then
    let data := s.arrived.take count
    let s := { s with arrived := s.arrived.drop count, taken := s.taken ++ data }
    if heard then some ({ s with phase := .looking .stop }, link, some (.read data))
    else some ({ s with phase := .shutting }, link, none)
  else none

/-- Writes some of the payload at hand, if there is one. -/
def write (s : Stream) (link : Link) (count : Nat) : Option Outcome :=
  match s.phase with
  | .writing rest =>
    if 0 < count ∧ count ≤ rest.length then
      some ({ s with phase := .writing (rest.drop count), written := s.written ++ rest.take count },
        link, none)
    else none
  | _ => none

/-- The write at hand fails, if there is one. -/
def failWrite (s : Stream) (link : Link) (heard : Bool) (cause : String) : Option Outcome :=
  match s.phase with
  | .writing (_ :: _) => some (s.reportEnd link heard (some cause))
  | _ => none

/-- One step of the task, if it can take it. `heard` says whether the owner still takes reports. -/
def step (s : Stream) (link : Link) (heard : Bool) : Move → Option Outcome
  | .go => s.go link heard
  | .read count => s.read link heard count
  | .write count => s.write link count
  | .fail cause => s.failWrite link heard cause

/-- Whether the task has nothing to do before something else happens. -/
def isIdle (s : Stream) (link : Link) (heard : Bool) : Bool :=
  match s.phase with
  | .looking _ =>
    !link.stop && (link.queue.getD []).isEmpty && s.arrived.isEmpty && s.ending.isNone
  | .waiting => !link.stop && heard
  | .ended => true
  | _ => false

/-- The step that a socket allows which takes all it is given and fails at nothing. -/
def nextMove (s : Stream) : Move :=
  match s.phase with
  | .looking .socket => if s.arrived.isEmpty then .go else .read (min readSize s.arrived.length)
  | .writing (a :: rest) => .write (a :: rest).length
  | _ => .go

end Stream

end NetSession
