import Strata.Json
import Strata.Report

/-!
Reports as JSON. The note is written only if there is one.
-/

namespace Strata

/-- A report as JSON. -/
def Report.toJson (r : Report) : Json :=
  .object <|
    [("rule", .string r.rule), ("priority", .string r.priority.key),
      ("details", .array (r.details.map .string))]
      ++ (r.messages.note.map fun n =>
        ("information_about_number_of_violations", Json.string n)).toList

/-- The JSON text of a report, without blanks. -/
def Report.compactJson (r : Report) : String := r.toJson.compact

/-- What a machine is told of some reports: how many there are, how many of them tell violations,
and the reports themselves. -/
def Report.allToJson (rs : List Report) : Json :=
  .object [("rules_evaluated", .natural rs.length),
    ("rules_violated", .natural (rs.filter (!·.isEmpty)).length),
    ("reports", .array (rs.map Report.toJson))]

end Strata
