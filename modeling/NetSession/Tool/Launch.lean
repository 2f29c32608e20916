import NetSession.Console.Filter
import NetSession.Settings.Load
import NetSession.Tool.Program

/-!
# Launching

From a command line to a running tool: the command line is read, notices are filtered as the
environment or the command line says, settings are loaded, and the tool is started. `launch` says
what is put out on the way, and either how the program ends or what runs.
-/

namespace NetSession.Tool

/-- The version of the tools. -/
def version : String := "0.1.0"

/-- The variables of the environment that the tools look at. -/
def variableNames : List String := "RUST_LOG" :: Settings.variableNames

/-- What is put out before a tool runs or instead of it. -/
structure Prelude where
  /-- The notices that are shown, in order. -/
  said : List Console.Notice := []
  /-- What the error report says, line by line. -/
  report : List String := []

/-- What a launch leads to. -/
inductive Outcome where
  /-- The command line cannot be read, or asks for a text. -/
  | refused (fault : CommandLine.Fault)
  /-- The program breaks off, because the environment holds a filter that falls apart. -/
  | aborted
  /-- The program ends with a report. -/
  | failed (before : Prelude)
  /-- A tool runs, and its notices are filtered. -/
  | running (before : Prelude) (filter : Console.Filter) (settings : Settings)
      (task : CommandLine.Task)

/-- The exit code of a program whose command line is not one that runs a tool. -/
def exitCode : CommandLine.Fault → UInt32
  | .helpAsked | .versionAsked => 0
  | _ => 2

/-- The exit code of a program that breaks off. -/
def abortCode : UInt32 := 101

/-- The filter that an environment and a command line ask for. A variable that holds no filter is
passed over, unless it falls apart. -/
def filterOf (env : Settings.Environment) (level : String) :
    Except Console.Directive.Fault Console.Filter :=
  match (env.lookup "RUST_LOG").map Console.Filter.read with
  | some (.ok filter) => .ok filter
  | some (.error .torn) => .error .torn
  | _ => Console.Filter.ofLevel level

/-- Reads a command line and prepares what it asks for; `content` gives the bytes of a file that can
be read. -/
def launch (words : List String) (env : Settings.Environment) (content : String → Option Bytes) :
    Outcome :=
  match CommandLine.Request.read words with
  | .error fault => .refused fault
  | .ok request =>
    match filterOf env request.logLevel with
    | .error .torn => .aborted
    | .error fault => .failed { report := report fault.chain }
    | .ok filter =>
      let shown (notices : List Console.Notice) : List Console.Notice :=
        let first := Console.Notice.say .tools .info ("Starting uvx v" ++ version)
        (first :: notices).filter filter.shows
      match Settings.load request.config (content request.config) env with
      | .error fault =>
        .failed { said := shown [], report := report [fault.message, fault.cause.message] }
      | .ok (settings, said) => .running { said := shown said } filter settings request.task

end NetSession.Tool
