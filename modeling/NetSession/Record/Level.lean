import NetSession.Console.Notice

/-!
# Levels

The severity of a log record: a signed byte, with eight named marks on its scale.
-/

namespace NetSession

/-- The severity of a log record. -/
structure Level where
  /-- The place on the scale, from least to most severe. -/
  value : Int8
  deriving DecidableEq, Repr

namespace Level

/-- The mark for tracing. -/
def trace : Level := ⟨-60⟩

/-- The mark for debugging. -/
def debug : Level := ⟨-30⟩

/-- The mark for information. -/
def info : Level := ⟨0⟩

/-- The mark for warnings. -/
def warn : Level := ⟨30⟩

/-- The mark for errors. -/
def error : Level := ⟨60⟩

/-- The mark of a notice's severity. -/
def ofSeverity : Console.Severity → Level
  | .trace => trace
  | .debug => debug
  | .info => info
  | .warn => warn
  | .error => error

/-- The name of the nearest mark at or below a level; below every mark that of the lowest. -/
def label (level : Level) : String :=
  let n := level.value.toInt
  if n < -60 then "ALL"
  else if n < -30 then "TRACE"
  else if n < 0 then "DEBUG"
  else if n < 30 then "INFO"
  else if n < 60 then "WARN"
  else if n < 90 then "ERROR"
  else if n < 127 then "FATAL"
  else "NONE"

/-- The written form: the label, and the exact value in parentheses. -/
def text (level : Level) : String :=
  level.label ++ "(" ++ toString level.value.toInt ++ ")"

end Level

end NetSession
