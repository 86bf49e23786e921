import Strata.Payload.Plain
import Strata.Proofs.Outcome.Violations
import Strata.Proofs.Text.Sorting

/-!
Narrowing an outcome and filtering its report. The first goes over events before their lines are
sorted, drops those of which no line is left and forgets the others; the second goes over sorted
lines and knows nothing of events. Main statement: `report_narrow`, both give the same report.
-/

namespace Strata.Outcome

section

variable [Kinds]

/-- Of violations, those dropped by narrowing are the ones without a line to lose. -/
lemma flatMap_lines_narrowed (keep : String → Bool) {es : List Event}
    (h : ∀ e ∈ es, e.isViolation = true) :
    ((es.map (.narrowed keep)).filter (·.isViolation)).flatMap Event.lines =
      (es.flatMap Event.lines).filter keep := by
  induction es with
  | nil => rfl
  | cons e es ih =>
      have hes := ih fun x hx => h x (by simp [hx])
      have he := h e (by simp)
      rw [List.map_cons, List.flatMap_cons, List.filter_append, ← hes]
      by_cases hlines : (Event.narrowed keep e).lines = []
      · have hdropped : ¬ (Event.narrowed keep e).isViolation = true := by
          rw [Event.isViolation_narrowed]
          exact fun hv => hv.2 hlines
        rw [List.filter_cons_of_neg hdropped, show e.lines.filter keep = [] from hlines,
          List.nil_append]
      · have hkept : (Event.narrowed keep e).isViolation = true :=
          Event.isViolation_narrowed.mpr ⟨he, hlines⟩
        rw [List.filter_cons_of_pos hkept, List.flatMap_cons]
        rfl

lemma lines_narrow {o : Outcome} (h : o.OnlyViolations) (keep : String → Bool) :
    (o.narrow keep).violations.flatMap Event.lines =
      (o.violations.flatMap Event.lines).filter keep := by
  rw [violations_narrow]
  exact flatMap_lines_narrowed keep h

/-- **Narrowing and filtering agree**: the report of a narrowed outcome has the rule and the
priority of the whole report and its lines as far as they are kept, each as often as there, in the
same order. There is no note in either. -/
theorem report_narrow {o : Outcome} (h : Reached o) (keep : String → Bool) :
    (o.narrow keep).report = o.report.filter keep ∧
      (o.narrow keep).report.messages.note = none ∧
      (o.report.filter keep).messages.note = none := by
  have hlines : Text.sortLines ((o.narrow keep).violations.flatMap Event.lines) =
      (Text.sortLines (o.violations.flatMap Event.lines)).filter keep := by
    rw [lines_narrow h.onlyViolations keep, Text.sortLines_filter]
  have hreport : (o.narrow keep).report = o.report.filter keep := by
    simp only [report, Report.filter, Messages.filter, hlines, note_narrow]
    rfl
  exact ⟨hreport, note_narrow keep o, rfl⟩

end

/-- Two outcomes merged, cut and narrowed before: the event of two lines loses one, and the one that
tells a line twice is told twice. -/
theorem report_narrow_merged :
    let log := EventLog.empty.addAll
      [.simple [] false ["b", "a"], .simple [] true ["b"], .simple [] false ["c", "b", "c"]]
    let o := (((ofLog "r" log .high).merge (ofLog "s" (log.setNote "many") .low)).narrow
      (· != "c")).limitTo 3
    Reached o ∧ (o.narrow (· != "a")).report = o.report.filter (· != "a") ∧
      (o.narrow (· != "a")).report.messages.note = none ∧
      (o.report.filter (· != "a")).messages.note = none := by
  intro log o
  have ho : Reached o := .limitTo 3 (.narrow _ (.merge (.ofLog _ _ _) (.ofLog _ _ _)))
  exact ⟨ho, report_narrow ho (· != "a")⟩

end Strata.Outcome
