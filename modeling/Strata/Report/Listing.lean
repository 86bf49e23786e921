import Strata.Report.Json

/-!
Listings: how the reports of a whole run are printed.

The text listing is for people: it shows the reports that tell violations, and a coloured summary.
The JSON listing holds all reports, one item a line. The compact listing has one entry for each
line of a report. Main statement: `entries_length`, there are as many entries as listed violations.
-/

namespace Strata

/-- The forms of a listing. -/
inductive Format where
  | text
  | json
  | compact
  deriving DecidableEq

namespace Format

/-- The words that choose a form. -/
def keyed : List (String × Format) := [("text", text), ("json", json), ("compact", compact)]

end Format

namespace Listing

/-- The reports that tell violations. -/
def violated (rs : List Report) : List Report := rs.filter (!·.isEmpty)

/-- How many lines all reports have. -/
def total (rs : List Report) : Nat := (rs.flatMap Report.details).length

/-! ### The listing for people -/

/-- A terminal's code for a colour. -/
def colour (code : Nat) : String := "\x1b[" ++ toString code ++ "m"

/-- Green if no rule is violated, red if one of high priority is, and yellow otherwise. -/
def summaryColour (rs : List Report) : String :=
  if (violated rs).isEmpty then colour 32
  else if (violated rs).any (·.priority == .high) then colour 31
  else colour 33

/-- How much is listed. Reports with a note do not list all there is. -/
def summary (rs : List Report) : String :=
  let noted := (rs.filter (·.messages.hasNote)).length
  "Listed " ++ toString (total rs) ++ " violation(s) in " ++ toString (violated rs).length ++ " of "
    ++ toString rs.length ++ " rule(s)"
    ++ if noted = 0 then "" else ", " ++ toString noted ++ " rule(s) truncated"

/-- The reports that tell violations, with an empty line after each. -/
def blocks (rs : List Report) : List String := (violated rs).map fun r => r.display ++ "\n\n"

/-! ### The compact listing -/

/-- The entries of one report. -/
def entriesOf (r : Report) : List String :=
  r.details.map fun line => "[" ++ r.priority.label ++ "] " ++ r.rule ++ ": " ++ line ++ "\n"

/-- The entries of all reports. -/
def entries (rs : List Report) : List String := rs.flatMap entriesOf

/-- There are as many entries as listed violations. -/
theorem entries_length (rs : List Report) : (entries rs).length = total rs := by
  simp [entries, entriesOf, total, List.length_flatMap]

/-! ### All of them -/

/-- The listing in one of its forms. -/
def render (rs : List Report) : Format → String
  | .text => String.join (blocks rs) ++ summaryColour rs ++ summary rs ++ colour 0 ++ "\n"
  | .json => (Report.allToJson rs).pretty ++ "\n"
  | .compact => String.join (entries rs)

end Listing

end Strata
