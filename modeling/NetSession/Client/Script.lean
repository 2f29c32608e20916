import NetSession.Client.Reaction

/-!
# Scripted clients

A handler that acts by a script: it sends fixed texts, and may send back what it receives.
-/

namespace NetSession.Client

/-- What a scripted handler does. -/
structure Script where
  /-- What it sends once there is a connection. -/
  greet : Option String := none
  /-- What it sends at a heartbeat. -/
  ping : Option String := none
  /-- What it sends when the connection is about to be closed. -/
  farewell : Option String := none
  /-- What it sends when no connection could be made. -/
  lament : Option String := none
  /-- Receiving exactly this makes it shut down. -/
  quit : Option String := none
  /-- Whether it sends back what it receives. -/
  echo : Bool := false
  /-- What it says when one of its texts cannot be sent. -/
  regret : Option Console.Notice := none
  deriving DecidableEq, Repr

namespace Script

/-- Sends a text of a script, if there is one. -/
def say (script : Script) (text : Option String) : Reaction Unit :=
  match text with
  | none => .done ()
  | some text => .send (Utf8.ofString text) fun ok =>
    match ok, script.regret with
    | false, some notice => .say notice (.done ())
    | _, _ => .done ()

/-- The handler of a script. -/
def handler (script : Script) : Handler Unit := fun callback _ =>
  match callback with
  | .connected => script.say script.greet
  | .connectFailed _ => script.say script.lament
  | .received data =>
    let end? : Reaction Unit :=
      if script.quit.map Utf8.ofString = some data then .shutdown (.done ()) else .done ()
    if script.echo then .send data fun _ => end? else end?
  | .closing => script.say script.farewell
  | .closed => .done ()
  | .heartbeat _ => script.say script.ping

end Script

end NetSession.Client
