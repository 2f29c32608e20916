import NetSession.CommandLine.Usage
import NetSession.Live.Loop
import NetSession.Tool.Launch
import Std.Internal.UV.System

/-!
# The program

Reads the command line, the environment and the settings file, launches the tool that is asked for,
and says how it ended.
-/

namespace NetSession

/-- The variables of the environment that the tools look at. -/
def environment : IO Settings.Environment :=
  Tool.variableNames.filterMapM fun name => do
    return (← IO.getEnv name).map (name, ·)

/-- The bytes of the settings file that a command line names, if it can be read. -/
def settingsFile (words : List String) : IO (Option Bytes) :=
  match CommandLine.Request.read words with
  | .error _ => return none
  | .ok request => do
    try
      return some (← IO.FS.readBinFile request.config).toList
    catch _ => return none

/-- How notices are shown: in colour on a terminal that is not a dumb one. -/
def style : IO Console.Style := do
  let dumb := (← IO.getEnv "TERM") == some "dumb"
  return { Console.Style.plain with color := (← (← IO.getStdout).isTty) && !dumb }

/-- Says what is wrong with a command line, or gives the text that it asks for. -/
def refuse (fault : CommandLine.Fault) : IO UInt32 := do
  match fault with
  | .helpAsked => CommandLine.help.forM IO.println
  | .versionAsked => IO.println ("uvx " ++ Tool.version)
  | .nothingGiven => CommandLine.help.forM IO.eprintln
  | _ => IO.eprintln ("error: " ++ fault.message)
  return Tool.exitCode fault

/-- Runs the program with the words of its command line. -/
def runProgram (words : List String) : IO UInt32 := do
  let style ← style
  let env ← environment
  let content ← settingsFile words
  match Tool.launch words env fun _ => content with
  | .refused fault => refuse fault
  | .aborted =>
    IO.eprintln "a filter is cut inside a character"
    return Tool.abortCode
  | .failed before =>
    before.said.forM (Live.Screen.say style)
    before.report.forM IO.eprintln
    return 1
  | .running before filter settings task =>
    before.said.forM (Live.Screen.say style)
    let pid := (← Std.Internal.UV.System.osGetPid).toUInt32.toInt32
    match ← Live.run ⟨style, filter⟩ pid settings task with
    | .ok () => return 0
    | .error fault =>
      (Tool.report fault.chain).forM IO.eprintln
      return 1

end NetSession

/-- The program. -/
def main (words : List String) : IO UInt32 := NetSession.runProgram words
