import Strata.EventLog
import Strata.Report

/-!
Outcomes: the violations of one rule.

An outcome keeps violations only. Outcomes are merged, narrowed to the lines that a predicate
keeps, and cut to a number of violations; none of this changes the outcomes it starts from.
-/

namespace Strata

variable [Kinds]

/-- The violations of one rule, in order. -/
structure Outcome where
  rule : String
  priority : Priority
  violations : List Event
  note : Option String

namespace Outcome

/-- The outcome of the events recorded in a log. -/
def ofLog (rule : String) (log : EventLog) (priority : Priority) : Outcome :=
  ⟨rule, priority, log.violating, log.note⟩

/-- The outcome without violations. -/
def empty (rule : String) (priority : Priority) : Outcome := ofLog rule .empty priority

/-- The outcome with the violations of `part` appended. Its own note wins over that of `part`. -/
def merge (o part : Outcome) : Outcome :=
  { o with violations := o.violations ++ part.violations, note := o.note.or part.note }

/-- Whether there is a violation. -/
def hasViolation (o : Outcome) : Bool := !o.violations.isEmpty

/-- The number of violations. -/
def count (o : Outcome) : Nat := o.violations.length

/-- The report: all lines of all violations, sorted. -/
def report (o : Outcome) : Report :=
  ⟨o.rule, o.priority, ⟨Text.sortLines (o.violations.flatMap Event.lines), o.note⟩⟩

/-- The outcome of which only lines that `keep` keeps are told. A violation without such a line
is none any more, and the note is dropped. -/
def narrow (keep : String → Bool) (o : Outcome) : Outcome :=
  ofLog o.rule (EventLog.empty.addAll (o.violations.map (.narrowed keep))) o.priority

/-- The outcome with the first `limit` violations. A note says if some are missing, unless there is
one already. -/
def limitTo (limit : Nat) (o : Outcome) : Outcome :=
  let cut := ofLog o.rule ((EventLog.withLimit (some limit)).addAll o.violations) o.priority
  { cut with note := o.note.or cut.note }

/-- What the violations hand on. -/
def deliveries (o : Outcome) : List Delivery := o.violations.flatMap Event.deliveries

/-- What the violations hand on to a handler of one kind of payloads. Deliveries with any other
payload are skipped. -/
def deliveriesOf (k : PayloadKind) (o : Outcome) : List (List k.Carrier × String) :=
  o.deliveries.filterMap fun d => (d.as? k).map (·, d.message)

@[simp] theorem violations_merge (o part : Outcome) :
    (o.merge part).violations = o.violations ++ part.violations := rfl

end Outcome

end Strata
