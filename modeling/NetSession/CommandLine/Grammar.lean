/-!
# Grammar of command lines

A command line is read word by word against the options of a command. An option is a flag or takes
one value, in the next word or after an equals sign; `--` ends the options; a word that is neither
an option nor a value is the name of a command inside the command, or its one positional value.

A value is checked only when the next option, the next positional word or the end of the line is
reached, which decides what is reported for a line with several faults.
-/

namespace NetSession.CommandLine

/-- Why a command line does not name something to do. -/
inductive Fault where
  /-- The help text was asked for. -/
  | helpAsked
  /-- The version was asked for. -/
  | versionAsked
  /-- Nothing was given at all. -/
  | nothingGiven
  /-- A command is missing. -/
  | missingCommand
  /-- A word stands where only the name of a command can. -/
  | invalidCommand (word : String)
  /-- A word is no option, or nothing takes it. -/
  | unknownArgument (word : String)
  /-- An option stands there twice. -/
  | conflict (option : String)
  /-- An option lacks its value. -/
  | missingValue (option : String)
  /-- A flag was given a value. -/
  | unneededValue (option : String)
  /-- A value is no value of its kind. -/
  | invalidValue (option value : String)
  deriving DecidableEq, Repr

/-- What an option does. -/
inductive Effect where
  /-- It asks for the help text. -/
  | help
  /-- It asks for the version. -/
  | version
  /-- It is set by its presence. -/
  | flag
  /-- It takes a value that passes a check. -/
  | value (check : String → Except Fault Unit)

/-- An option of a command. -/
structure Opt where
  /-- The name behind two dashes. -/
  long : String
  /-- The letter behind one dash. -/
  short : Option Char
  /-- What it does. -/
  effect : Effect

/-- A command without commands of its own. -/
structure Command where
  /-- The options. -/
  options : List Opt
  /-- The name of the positional value, if there is one. -/
  positional : Option String

/-- What a line gave for one command. -/
structure Given where
  /-- The options that were settled, with their values, in order; a flag has none. -/
  settled : List (String × String) := []
  deriving DecidableEq, Repr

/-- Whether an option was given. -/
def Given.has (given : Given) (name : String) : Bool := given.settled.any (·.1 == name)

/-- The value that was given to an option. -/
def Given.value? (given : Given) (name : String) : Option String := given.settled.lookup name

/-- An option or positional whose value is not checked yet. -/
structure Pending where
  /-- Its name. -/
  name : String
  /-- The check. -/
  check : String → Except Fault Unit
  /-- The value, if it has been read. -/
  value : Option String

/-- Where the reader stands in a line. -/
structure State where
  /-- What is settled. -/
  given : Given
  /-- What is not. -/
  pending : Option Pending
  /-- Whether `--` has been read. -/
  trailing : Bool
  /-- Whether the positional value has been read. -/
  filled : Bool

/-- The start of a line. -/
def State.start : State := ⟨⟨[]⟩, none, false, false⟩

/-- Puts a value down that passes a check, once for each name. -/
def Given.add (given : Given) (name value : String) (check : String → Except Fault Unit) :
    Except Fault Given := do
  if given.has name then throw (.conflict name)
  check value
  return ⟨given.settled ++ [(name, value)]⟩

/-- Settles what is pending. -/
def State.settle (s : State) : Except Fault State :=
  match s.pending with
  | none => .ok s
  | some p =>
    match p.value with
    | none => .error (.missingValue p.name)
    | some value => do
      return { s with given := ← s.given.add p.name value p.check, pending := none }

/-- Whether the next word may be the value of an option. -/
def State.awaitsValue (s : State) : Bool :=
  match s.pending with
  | some p => p.value.isNone
  | none => false

/-- Reads an option that has no value attached to it. -/
def State.takeOption (s : State) (option : Opt) : Except Fault State := do
  let s ← s.settle
  match option.effect with
  | .help => throw .helpAsked
  | .version => throw .versionAsked
  | .flag => return { s with given := ← s.given.add option.long "" fun _ => .ok () }
  | .value check => return { s with pending := some ⟨option.long, check, none⟩ }

/-- Reads an option with a value attached to it. -/
def State.takeAttached (s : State) (option : Opt) (value : String) : Except Fault State :=
  match option.effect with
  | .value check => do
    let s ← s.settle
    { s with pending := some ⟨option.long, check, some value⟩ }.settle
  | _ => .error (.unneededValue option.long)

/-- Splits the text behind two dashes at its first equals sign. -/
def splitEquals (text : List Char) : String × Option String :=
  let name := text.takeWhile (· != '=')
  match text.dropWhile (· != '=') with
  | [] => (String.ofList name, none)
  | _ :: value => (String.ofList name, some (String.ofList value))

/-- Reads a word behind two dashes. -/
def State.takeLong (s : State) (options : List Opt) (word : String) (body : List Char) :
    Except Fault State :=
  let (name, value) := splitEquals body
  match options.find? (·.long == name) with
  | none => .error (.unknownArgument word)
  | some option =>
    match value with
    | none => s.takeOption option
    | some value => s.takeAttached option value

/-- Reads letters behind one dash. -/
def State.takeShorts (s : State) (options : List Opt) (word : String) :
    List Char → Except Fault State
  | [] => .ok s
  | c :: rest =>
    match options.find? (·.short == some c) with
    | none => .error (.unknownArgument word)
    | some option => do (← s.takeOption option).takeShorts options word rest

/-- Reads a word that is no option and no value of one. -/
def State.takePositional (s : State) (command : Command) (word : String) : Except Fault State :=
  match command.positional with
  | some name =>
    if s.filled then .error (.unknownArgument word)
    else do
      let s ← s.settle
      return { s with pending := some ⟨name, fun _ => .ok (), some word⟩, filled := true }
  | none => .error (.unknownArgument word)

/-- What kind of word is met where options may stand. -/
inductive Word where
  /-- The end of the options. -/
  | escape
  /-- A word behind two dashes. -/
  | long (body : List Char)
  /-- Letters behind one dash. -/
  | short (letters : List Char)
  /-- Any other word. -/
  | plain
  deriving DecidableEq, Repr

/-- The kind of a word. -/
def Word.classify (word : String) : Word :=
  match word.toList with
  | ['-', '-'] => .escape
  | '-' :: '-' :: body => .long body
  | ['-'] => .plain
  | '-' :: letters => .short letters
  | _ => .plain

/-- Reads a word where options may stand; `other` reads a word that is neither an option nor a
value. -/
def State.takeWord (s : State) (options : List Opt) (other : Except Fault State) (word : String) :
    Except Fault State :=
  match Word.classify word with
  | .escape => .ok { s with trailing := true }
  | .long body => s.takeLong options word body
  | .short letters => s.takeShorts options word letters
  | .plain =>
    match s.pending with
    | some p =>
      if p.value.isNone then .ok { s with pending := some { p with value := some word } } else other
    | none => other

/-- Reads the words of a command without commands of its own. -/
def State.takeAll (s : State) (command : Command) : List String → Except Fault State
  | [] => s.settle
  | word :: rest => do
    let positional := s.takePositional command word
    let s ← if s.trailing then positional else s.takeWord command.options positional word
    s.takeAll command rest

/-- Reads the words of a command without commands of its own. -/
def Command.read (command : Command) (words : List String) : Except Fault Given := do
  return (← State.start.takeAll command words).given

/-- A command whose work is done by named commands inside it. -/
structure Group where
  /-- Its own options. -/
  options : List Opt
  /-- The commands inside it, by name. -/
  commands : List (String × Command)

/-- The answer to a request for help: the words must lead to a command. -/
def Group.help (group : Group) : List String → Fault
  | [] => .helpAsked
  | [word] =>
    if word = "help" ∨ (group.commands.any (·.1 == word)) then .helpAsked
    else .invalidCommand word
  | word :: next :: _ =>
    if word = "help" ∨ (group.commands.any (·.1 == word)) then .invalidCommand next
    else .invalidCommand word

/-- What a line gave: the options of the group, the command's name and the options of the command.
-/
structure Invocation where
  /-- What was given before the name of the command. -/
  outer : Given
  /-- The name of the command. -/
  command : String
  /-- What was given behind it. -/
  inner : Given
  deriving DecidableEq, Repr

/-- Reads words up to the name of a command, and the rest as that command's. Once `--` has been
read, no word names a command. -/
def Group.readFrom (group : Group) (s : State) : List String → Except Fault Invocation
  | [] => do
    let s ← s.settle
    throw (if s.given.settled.isEmpty then .nothingGiven else .missingCommand)
  | word :: rest =>
    let known := group.commands.lookup word
    if s.trailing then
      .error (if known.isSome ∨ word = "help" then .unknownArgument word else .invalidCommand word)
    else if !s.awaitsValue ∧ word = "help" then .error (group.help rest)
    else
      match if s.awaitsValue then none else known with
      | some command => do
        let inner ← command.read rest
        let s ← s.settle
        return ⟨s.given, word, inner⟩
      | none => do
        let s ← s.takeWord group.options (.error (.invalidCommand word)) word
        group.readFrom s rest

/-- Reads a whole line. -/
def Group.read (group : Group) (words : List String) : Except Fault Invocation :=
  group.readFrom .start words

end NetSession.CommandLine
