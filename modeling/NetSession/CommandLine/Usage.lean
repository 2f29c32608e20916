import NetSession.CommandLine.Commands

/-!
# What is said about the command line

The help text, which is derived from the grammar, and what is said about a command line that does
not follow it.
-/

namespace NetSession.CommandLine

/-- An option as the help text shows it. -/
def Opt.usage (option : Opt) : String :=
  let short := match option.short with
    | some c => "-" ++ String.singleton c ++ ", "
    | none => ""
  let value := match option.effect with
    | .value _ => " <" ++ option.long.toUpper ++ ">"
    | .help | .version | .flag => ""
  short ++ "--" ++ option.long ++ value

/-- A command as the help text shows it. -/
def Command.usage (command : Command) (name : String) : String :=
  let positional := (command.positional.map (" [" ++ ·.toUpper ++ "]")).getD ""
  "  " ++ name ++ positional ++ "  "
    ++ ", ".intercalate (command.options.map Opt.usage)

/-- The help text. -/
def help : List String :=
  ["Event-driven TCP/UDP tools and loge logging", "", "Usage: uvx [OPTIONS] <COMMAND>", "",
      "Commands:"]
    ++ commands.map (fun (name, command) => command.usage name)
    ++ ["", "Options:"]
    ++ grammar.options.map ("  " ++ ·.usage)

/-- The wording of a fault. -/
def Fault.message : Fault → String
  | .helpAsked => "help was asked for"
  | .versionAsked => "the version was asked for"
  | .nothingGiven | .missingCommand => "a command is missing"
  | .invalidCommand word => "unrecognized subcommand '" ++ word ++ "'"
  | .unknownArgument word => "unexpected argument '" ++ word ++ "' found"
  | .conflict option => "the argument '--" ++ option ++ "' cannot be used multiple times"
  | .missingValue option => "a value is required for '--" ++ option ++ "' but none was supplied"
  | .unneededValue option => "unexpected value for '--" ++ option ++ "' found"
  | .invalidValue option value => "invalid value '" ++ value ++ "' for '--" ++ option ++ "'"

end NetSession.CommandLine
