import NetSession.Console.Directive

/-!
# Filters

Which notices are shown. A filter is a set of directives. Of those that are for a notice the one
that asks for most decides, and of equal ones the latest.
-/

namespace NetSession.Console

/-- A set of directives, the later ones first. -/
abbrev Filter := List Directive

namespace Filter

/-- Reads a filter: directives with commas between them. Errors are shown if there are none. -/
def read (text : String) : Except Directive.Fault Filter := do
  let texts := (text.splitOn ",").filter (· ≠ "")
  let directives ← texts.mapM fun text => Directive.read text.toList
  return if directives.isEmpty then [{ verbosity := .atLeast .error }] else directives.reverse

/-- Adds a directive to a filter. -/
def add (filter : Filter) (directive : Directive) : Filter := directive :: filter

/-- The filter that holds where the environment says nothing: everything that is informative, and
from the program itself what the command line asks for. -/
def ofLevel (level : String) : Except Directive.Fault Filter :=
  ["uvx", "uvx_session", "uvx_wire"].foldlM
    (fun filter target => do return filter.add (← Directive.read (target ++ "=" ++ level).toList))
    [{ verbosity := .atLeast .info }]

/-- The directive that decides about a notice. -/
def decider? (filter : Filter) (notice : Notice) : Option Directive :=
  (filter.filter (·.fits notice)).foldl
    (fun best directive =>
      match best with
      | none => some directive
      | some held => if directive.precedes held then some directive else some held)
    none

/-- Whether a notice is shown. -/
def shows (filter : Filter) (notice : Notice) : Bool :=
  match filter.decider? notice with
  | some directive => directive.verbosity.shows notice.severity
  | none => false

end Filter

end NetSession.Console
