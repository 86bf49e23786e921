import Strata.Text.Control

/-!
Progress: what a run tells about itself while it works.

Lines may quote names that come from outside, so nothing in them may steer a terminal when they are
shown.
-/

namespace Strata

/-- How much a line of progress matters. -/
inductive Level where
  | debug
  | info
  | warn
  deriving DecidableEq

namespace Level

/-- The name in front of a line. -/
def label : Level → String
  | debug => "DEBUG"
  | info => "INFO"
  | warn => "WARN"

end Level

/-- A line of progress. -/
structure Progress where
  level : Level
  text : String
  deriving DecidableEq

namespace Progress

/-- A line for those who want to know everything. -/
def debug (text : String) : Progress := ⟨.debug, text⟩

/-- A line for everyone. -/
def info (text : String) : Progress := ⟨.info, text⟩

/-- A line about something that is probably a mistake. -/
def warn (text : String) : Progress := ⟨.warn, text⟩

/-- The line as it is shown. -/
def spelled (l : Progress) : Progress := { l with text := Text.spellControls l.text }

/-- What is shown of some lines: all of them or those for everyone. -/
def shown (verbose : Bool) (lines : List Progress) : List Progress :=
  (lines.filter fun l => verbose || l.level != .debug).map spelled

end Progress

end Strata
