import Mathlib.Data.List.Basic
import NetSession.Console.Notice

/-!
# The message in the line of a notice

A line is the columns of the time, the component and the severity, then the message and what ends
the line (`Style.line_eq`). How a notice received its message changes nothing else in the line, and
a message that it received as a text stands there as it is. Of one that was shown by a rule the
quotes at both ends are taken for those of the rule, so a message that has them itself, and only
such a one, loses them (`unquote_eq_self_iff`, `Style.line_message`).
-/

namespace NetSession.Console

/-- A text in quotes. -/
def inQuotes (inner : String) : String := "\"" ++ inner ++ "\""

/-- The quotes around a text are taken off. -/
theorem unquote_inQuotes (inner : String) : unquote (inQuotes inner) = inner := by
  have hlist : (inQuotes inner).toList = '"' :: (inner.toList ++ ['"']) := by simp [inQuotes]
  simp [unquote, hlist]

/-- Nothing else is taken off. -/
theorem unquote_of_not_inQuotes {text : String} (h : ∀ inner, text ≠ inQuotes inner) :
    unquote text = text := by
  unfold unquote
  split
  · next rest hfirst =>
    split
    · next inner hlast =>
      have hrest : rest = inner.reverse ++ ['"'] := by
        rw [← rest.reverse_reverse, hlast, List.reverse_cons]
      refine absurd ?_ (h (String.ofList inner.reverse))
      rw [← text.ofList_toList, hfirst, hrest]
      simp [inQuotes, ← String.toList_inj]
    · rfl
  · rfl

/-- A text stays as it is exactly if it is not in quotes. -/
theorem unquote_eq_self_iff {text : String} :
    unquote text = text ↔ ∀ inner, text ≠ inQuotes inner := by
  refine ⟨?_, unquote_of_not_inQuotes⟩
  rintro h inner rfl
  have hquote : "\"".length = 1 := by decide
  have hlength := congrArg String.length (unquote_inQuotes inner ▸ h)
  rw [inQuotes, String.length_append, String.length_append, hquote] at hlength
  omega

namespace Style

/-- The columns before the message of a line. -/
def columns (style : Style) (time : String) (severity : Severity) (component? : Option String) :
    String :=
  let paint (code : String) : String := if style.color then code else ""
  paint "\x1b[36m" ++ "[" ++ time ++ "] [" ++ componentColumn style.service component? ++ "] ["
    ++ paint severity.color ++ padRight severityWidth severity.label ++ paint "\x1b[0m" ++ "] "

/-- What ends a line behind the message. -/
def ending (style : Style) : String := (if style.color then "\x1b[0m" else "") ++ "\n"

/-- A line is the columns, the message and the end of the line. -/
theorem line_eq (style : Style) (time : String) (notice : Notice) :
    style.line time notice =
      style.columns time notice.severity notice.component? ++ notice.message ++ style.ending := by
  simp only [line, body, columns, ending, String.append_assoc]
  rfl

end Style

namespace Notice

/-- What is said of a name is the last value that it has. -/
theorem last?_append_cons {origin : Origin} {severity : Severity}
    {front back : List (String × Value)} {name : String} (hback : ∀ v ∈ back, v.1 ≠ name)
    (value : Value) :
    last? ⟨origin, severity, front ++ (name, value) :: back⟩ name = some value.render := by
  have hnone : back.reverse.lookup name = none :=
    List.lookup_eq_none_iff.mpr fun v hv => by
      simpa using (hback v (List.mem_reverse.mp hv)).symm
  simp [last?, List.lookup_append, hnone]

/-- What is said of a name does not depend on the values of another. -/
theorem last?_of_ne {origin : Origin} {severity : Severity} {front back : List (String × Value)}
    {name other : String} (hne : other ≠ name) (value value' : Value) :
    last? ⟨origin, severity, front ++ (name, value) :: back⟩ other =
      last? ⟨origin, severity, front ++ (name, value') :: back⟩ other := by
  have hname : (other == name) = false := beq_false_of_ne hne
  simp [last?, List.lookup_append, List.lookup_cons, hname]

end Notice

/-- The line of a notice that received its message as a text shows that text. The line of one that
received it as shown by a rule is the same exactly if the message is not in quotes; else it lacks
these. -/
theorem Style.line_message (style : Style) (time : String) (origin : Origin) (severity : Severity)
    (front back : List (String × Value)) (message : String)
    (hback : ∀ v ∈ back, v.1 ≠ "message") :
    let notice (value : Value) : Notice := ⟨origin, severity, front ++ ("message", value) :: back⟩
    let columns := style.columns time severity (notice (.text message)).component?
    style.line time (notice (.text message)) = columns ++ message ++ style.ending ∧
    (style.line time (notice (.shown message)) = style.line time (notice (.text message)) ↔
      ∀ inner, message ≠ inQuotes inner) ∧
    ∀ inner, message = inQuotes inner →
      style.line time (notice (.shown message)) = columns ++ inner ++ style.ending := by
  intro notice columns
  have hline (value : Value) :
      style.line time (notice value) = columns ++ value.render ++ style.ending := by
    have hcomponent : (notice value).component? = (notice (.text message)).component? :=
      Notice.last?_of_ne (by decide) value (.text message)
    rw [style.line_eq, hcomponent, Notice.message, Notice.last?_append_cons hback, Option.getD_some]
  refine ⟨hline (.text message), ?_, ?_⟩
  · rw [hline, hline, String.append_left_inj, String.append_right_inj]
    exact unquote_eq_self_iff
  · rintro inner rfl
    rw [hline, Value.render, unquote_inQuotes]

/-- Quotes inside a message stay, whatever other values the notice has. -/
theorem Style.line_message_inner_quotes :
    let back : List (String × Value) := [("peer", .shown "\"10.0.0.1\"")]
    let notice (value : Value) : Notice :=
      ⟨.tools, .warn, [("component", .text "log")] ++ ("message", value) :: back⟩
    (∀ v ∈ back, v.1 ≠ "message") ∧
    plain.line "12:00" (notice (.shown "say \"hi\" twice")) =
      "[12:00] [uvx-log     ] [⚠ WARN ] say \"hi\" twice\n" := by
  intro back notice
  have hback : ∀ v ∈ back, v.1 ≠ "message" :=
    fun v hv => List.mem_singleton.mp hv ▸ show "peer" ≠ "message" by decide
  obtain ⟨htext, hsame, -⟩ := line_message plain "12:00" .tools .warn [("component", .text "log")]
    back "say \"hi\" twice" hback
  have hquotes : ∀ inner, "say \"hi\" twice" ≠ inQuotes inner := by
    rintro inner h
    have hfirst := congrArg (·.toList.head?) h
    simp [inQuotes] at hfirst
  refine ⟨hback, (hsame.mpr hquotes).trans (htext.trans ?_)⟩
  decide +kernel

/-- A message that begins and ends with a quoted word loses the first and the last quote, if it was
shown by a rule. -/
theorem Style.line_message_quoted_words :
    let notice (value : Value) : Notice :=
      ⟨.tools, .info, [("component", .text "udp"), ("message", value)]⟩
    plain.line "12:00" (notice (.text "\"in\" and \"out\"")) =
      "[12:00] [uvx-udp     ] [ℹ INFO ] \"in\" and \"out\"\n" ∧
    plain.line "12:00" (notice (.shown "\"in\" and \"out\"")) =
      "[12:00] [uvx-udp     ] [ℹ INFO ] in\" and \"out\n" := by
  decide +kernel

end NetSession.Console
