import Strata.Priority
import Strata.Text

/-!
Reports: the textual outcome of evaluating one rule.
-/

namespace Strata

/-- Lines about violations, and a note on their number if it is not simply how many there are. -/
structure Messages where
  lines : List String
  note : Option String
  deriving DecidableEq

namespace Messages

/-- How often the rule was violated: the note, or the number of lines. -/
def count (m : Messages) : String := m.note.getD (toString m.lines.length ++ " times")

/-- Whether there is a note. -/
def hasNote (m : Messages) : Bool := m.note.isSome

/-- The messages with the lines that `keep` keeps. The note is dropped, for it does not describe
those. -/
def filter (keep : String → Bool) (m : Messages) : Messages := ⟨m.lines.filter keep, none⟩

end Messages

/-- The outcome of evaluating one rule. -/
structure Report where
  rule : String
  priority : Priority
  messages : Messages
  deriving DecidableEq

namespace Report

/-- The lines of the report. -/
def details (r : Report) : List String := r.messages.lines

/-- Whether there is nothing to report. -/
def isEmpty (r : Report) : Bool := r.details.isEmpty

/-- The report with the lines that `keep` keeps, and without note. -/
def filter (keep : String → Bool) (r : Report) : Report :=
  { r with messages := r.messages.filter keep }

/-- The first line of the report. -/
def headline (r : Report) : String :=
  "Architecture Violation [Priority: " ++ r.priority.label ++ "] - Rule '" ++ r.rule
    ++ "' was violated (" ++ r.messages.count ++ ")"

/-- The report as text: the first line and, after a colon, the others. -/
def display (r : Report) : String :=
  if r.isEmpty then r.headline else Text.join "\n" ((r.headline ++ ":") :: r.details)

end Report

end Strata
