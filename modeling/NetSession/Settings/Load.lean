import NetSession.Console.Notice
import NetSession.Settings.Document

/-!
# Loading settings

Settings come from a file, then from the environment. A file that cannot be read as text means that
the defaults hold; a file that can be read but holds no settings is a fault.
-/

namespace NetSession.Settings

/-- The variables of an environment. -/
abbrev Environment := List (String × String)

/-- The variables that give settings. -/
def variableNames : List String :=
  ["UVX_LISTEN", "UVX_CONNECT", "UVX_HEARTBEAT_SECS", "UVX_CONN_TIMEOUT_SECS", "UVX_LOG_TARGET"]

/-- Sets the values that a text variable gives. -/
def overrideText (env : Environment) (name label : String) (set : String → Settings → Settings)
    (s : Settings) : Settings × List Console.Notice :=
  match env.lookup name with
  | none => (s, [])
  | some value =>
    (set value s, [.say .settings .info (label ++ " overridden by environment: " ++ value)])

/-- Sets the values that a variable with a number of seconds gives; a value that is no number is
passed over. -/
def overrideSeconds (env : Environment) (name label : String) (set : Nat → Settings → Settings)
    (s : Settings) : Settings × List Console.Notice :=
  match env.lookup name with
  | none => (s, [])
  | some value =>
    match Decimal.read Decimal.bound64 value.toList with
    | .ok n =>
      let said := label ++ " overridden by environment: " ++ toString n ++ "s"
      (set n s, [.say .settings .info said])
    | .error _ => (s, [.say .settings .warn ("Ignoring " ++ name ++ "=" ++ Text.quoted value)])

/-- The variables that are looked up, in order. -/
def overrides (env : Environment) : List (Settings → Settings × List Console.Notice) := [
  overrideText env "UVX_LISTEN" "Listen address" fun value s =>
    { s with server := { s.server with listen := value } },
  overrideText env "UVX_CONNECT" "Connect address" fun value s =>
    { s with client := { s.client with connect := value } },
  overrideSeconds env "UVX_HEARTBEAT_SECS" "Heartbeat" fun n s =>
    { s with
      server := { s.server with heartbeatSecs := n }
      client := { s.client with heartbeatSecs := n } },
  overrideSeconds env "UVX_CONN_TIMEOUT_SECS" "Connection timeout" fun n s =>
    { s with server := { s.server with connTimeoutSecs := n } },
  overrideText env "UVX_LOG_TARGET" "Log target" fun value s =>
    { s with log := { s.log with target := value } }]

/-- Settings with the values of an environment set, and what is said about it. -/
def override (env : Environment) (s : Settings) : Settings × List Console.Notice :=
  (overrides env).foldl
    (fun (s, said) step =>
      let (s, more) := step s
      (s, said ++ more))
    (s, [])

/-- Why settings cannot be loaded. -/
structure LoadFault where
  /-- The path of the file. -/
  path : String
  /-- What is wrong with it. -/
  cause : Fault
  deriving DecidableEq, Repr

/-- The wording of a fault. -/
def LoadFault.message (fault : LoadFault) : String :=
  "failed to parse config file " ++ Text.quoted fault.path

/-- The settings of a file, if it can be read, with those of an environment set; and what is said
about it. -/
def load (path : String) (content : Option Bytes) (env : Environment) :
    Except LoadFault (Settings × List Console.Notice) :=
  match content.bind Utf8.string? with
  | none =>
    let (s, said) := override env {}
    let missing := "Config file " ++ Text.quoted path ++ " not found, using defaults"
    .ok (s, .say .settings .warn missing :: said)
  | some text =>
    match ofText text with
    | .error cause => .error ⟨path, cause⟩
    | .ok s =>
      let (s, said) := override env s
      .ok (s, .say .settings .info ("Loaded configuration from " ++ Text.quoted path) :: said)

end NetSession.Settings
