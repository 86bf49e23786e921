import Mathlib.Algebra.Ring.Nat
import Strata.Payload.Plain
import Strata.Proofs.Engine.Outcomes
import Strata.Proofs.Report.Decoding
import Strata.Proofs.Rule.Findings
import Strata.Verdict

/-!
Verdicts and what is printed of them. A verdict counts violations and a listing counts lines, and a
violation without lines would make a check fail of which nothing is printed. No rule of an engine
has one (`Engine.isEmpty_report_evaluate`), so the report on a violated rule is printed with its
priority, its name and all its lines in every form (`Report.IsShownIn`). Main statement:
`evaluateOnly_listed`, the verdict on what an engine evaluates and its listings in all forms agree.
-/

namespace Strata

/-! ### What is printed of one report -/

namespace Text

/-- Lines one below the other, each with its end. -/
def stack (ls : List String) : List Char := ls.flatMap fun l => l.toList ++ ['\n']

lemma toList_join_cons (l : String) (ls : List String) :
    (join "\n" (l :: ls)).toList ++ ['\n'] = stack (l :: ls) := by
  induction ls generalizing l with
  | nil => simp [join, stack]
  | cons l' ls ih =>
      have hrest : stack (l :: l' :: ls) = l.toList ++ ['\n'] ++ stack (l' :: ls) := rfl
      rw [hrest, ← ih l', join, String.intercalate_cons_cons]
      simp [join]

end Text

namespace Report

variable {r : Report}

/-- The lines that show a report to people: in the first one the word for its priority, its rule
and how often that was violated, then all its lines, and an empty one at the end. -/
def block (word : String) (r : Report) : List String :=
  ("Architecture Violation [Priority: " ++ word ++ "] - Rule '" ++ r.rule ++ "' was violated ("
    ++ r.messages.note.getD (toString r.details.length ++ " times") ++ "):") :: r.details ++ [""]

/-- The lines that show a report to scripts: each of its own after the word for its priority and
its rule. -/
def entries (word : String) (r : Report) : List String :=
  r.details.map fun line => "[" ++ word ++ "] " ++ r.rule ++ ": " ++ line

/-- An output in some form shows a report: its priority, by a word that names it, its rule and all
its lines. To machines these are told as a record. -/
def IsShownIn (r : Report) (output : String) : Format → Prop
  | .text => ∃ word, Priority.parse? word = some r.priority ∧
      Text.stack (r.block word) <:+: output.toList
  | .json => ∃ d ds, Document.ofJson output = ⟨d, true⟩ ∧ d.get? "reports" = some (.list ds true) ∧
      ∃ told ∈ ds, r.IsToldBy told
  | .compact => ∃ word, Priority.parse? word = some r.priority ∧
      Text.stack (r.entries word) <:+: output.toList

lemma toList_display (h : r.isEmpty = false) :
    (r.display ++ "\n\n").toList = Text.stack (r.block r.priority.label) := by
  have hheadline : r.headline ++ ":" = "Architecture Violation [Priority: " ++ r.priority.label
      ++ "] - Rule '" ++ r.rule ++ "' was violated ("
      ++ r.messages.note.getD (toString r.details.length ++ " times") ++ "):" := by
    have hcolon : ")" ++ ":" = "):" := rfl
    exact String.append_assoc.trans (congrArg (HAppend.hAppend _) hcolon)
  have hblock : Text.stack (r.block r.priority.label) =
      Text.stack ((r.headline ++ ":") :: r.details) ++ ['\n'] := by
    rw [block, ← hheadline]
    simp [Text.stack]
  rw [display, h, if_neg Bool.false_ne_true, hblock, ← Text.toList_join_cons]
  simp

end Report

namespace Listing

variable {rs : List Report} {r : Report}

lemma infix_flatMap {α β : Type} {a : α} {as : List α} (f : α → List β) (h : a ∈ as) :
    f a <:+: as.flatMap f := by
  rw [List.flatMap_def]
  exact List.infix_of_mem_flatten (List.mem_map_of_mem h)

/-- The text is made of a block for each report that tells violations and of the summary. -/
lemma toList_render_text (rs : List Report) :
    (render rs .text).toList =
      ((violated rs).flatMap fun r => Text.stack (r.block r.priority.label)) ++
        (summaryColour rs ++ summary rs ++ colour 0 ++ "\n").toList := by
  have hblocks : (String.join (blocks rs)).toList =
      (violated rs).flatMap fun r => Text.stack (r.block r.priority.label) := by
    rw [String.toList_join, blocks, List.flatMap_map]
    refine List.flatMap_congr fun r hr => Report.toList_display ?_
    simpa using (List.mem_filter.mp hr).2
  rw [← hblocks, ← String.toList_append]
  simp only [render, String.append_assoc]

lemma toList_render_compact (rs : List Report) :
    (render rs .compact).toList =
      rs.flatMap fun r => Text.stack (r.entries r.priority.label) := by
  rw [render, String.toList_join, entries, List.flatMap_assoc]
  refine List.flatMap_congr fun r _ => ?_
  simp [entriesOf, Text.stack, Report.entries, List.flatMap_map]

lemma isShownIn_text (hr : r ∈ violated rs) : r.IsShownIn (render rs .text) .text := by
  refine ⟨r.priority.label, Priority.parse?_label _, ?_⟩
  have hblock := infix_flatMap (fun r => Text.stack (r.block r.priority.label)) hr
  rw [toList_render_text]
  exact hblock.trans (List.prefix_append _ _).isInfix

lemma isShownIn_json (hr : r ∈ rs) : r.IsShownIn (render rs .json) .json := by
  refine ⟨_, _, Report.ofJson_render rs, rfl, r.toJson.toDatum, ?_, r.isToldBy_toDatum⟩
  rw [Json.toData_eq_map, List.map_map]
  exact List.mem_map_of_mem hr

lemma isShownIn_compact (hr : r ∈ rs) : r.IsShownIn (render rs .compact) .compact := by
  refine ⟨r.priority.label, Priority.parse?_label _, ?_⟩
  rw [toList_render_compact]
  exact infix_flatMap (fun r => Text.stack (r.entries r.priority.label)) hr

/-- A report that tells violations is shown in every form. -/
lemma isShownIn_render (hr : r ∈ violated rs) :
    ∀ format, r.IsShownIn (render rs format) format
  | .text => isShownIn_text hr
  | .json => isShownIn_json (List.mem_of_mem_filter hr)
  | .compact => isShownIn_compact (List.mem_of_mem_filter hr)

end Listing

/-! ### Verdicts -/

section

variable [Kinds]

namespace Verdict

variable {v : Verdict}

/-- The outcomes with violations. -/
def violated (v : Verdict) : List Outcome := v.outcomes.filter (·.hasViolation)

/-- How many lines the reports of all outcomes have. -/
def lineCount (v : Verdict) : Nat := (v.outcomes.map fun o => o.report.details.length).sum

/-- How many outcomes have a note. -/
def noteCount (v : Verdict) : Nat := (v.outcomes.filter (·.note.isSome)).length

/-- A verdict and its listings agree on which rules are violated and on how much is listed. -/
structure Listed (v : Verdict) : Prop where
  violated_iff : ∀ o ∈ v.outcomes, (o.hasViolation = true ↔ o.report.isEmpty = false) ∧
    (o.hasViolation = true ↔ o.report.details ≠ [])
  /-- The report on a violated rule is shown in every form. -/
  shown : ∀ o ∈ v.outcomes, o.hasViolation = true →
    ∀ format, o.report.IsShownIn (Listing.render v.reports format) format
  failing_shown : 0 < v.failing.length → ∃ r ∈ v.reports, r.details ≠ [] ∧
    v.threshold ≤ r.priority ∧ ∀ format, r.IsShownIn (Listing.render v.reports format) format
  /-- The text has a block for each violated rule, in order, and then a summary, in colour. -/
  text_eq : (Listing.render v.reports .text).toList =
    (v.violated.flatMap fun o => Text.stack (o.report.block o.priority.label)) ++
      (Listing.summaryColour v.reports ++ Listing.summary v.reports ++ Listing.colour 0
        ++ "\n").toList
  blocks_length : (Listing.blocks v.reports).length = v.violated.length
  summary_eq : Listing.summary v.reports =
    "Listed " ++ toString v.lineCount ++ " violation(s) in " ++ toString v.violated.length
      ++ " of " ++ toString v.outcomes.length ++ " rule(s)"
      ++ if v.noteCount = 0 then "" else ", " ++ toString v.noteCount ++ " rule(s) truncated"
  /-- The JSON text tells all reports, and how many rules are violated. -/
  json_told : ∃ d, Document.ofJson (Listing.render v.reports .json) = ⟨d, true⟩ ∧
    Report.AreToldBy v.reports d ∧ d.get? "rules_evaluated" = some (.natural v.outcomes.length) ∧
    d.get? "rules_violated" = some (.natural v.violated.length)
  /-- The compact listing has an entry for each line of each report, in order. -/
  compact_eq : (Listing.render v.reports .compact).toList =
    v.outcomes.flatMap fun o => Text.stack (o.report.entries o.priority.label)
  entries_length : (Listing.entries v.reports).length = v.lineCount

lemma total_reports (v : Verdict) : Listing.total v.reports = v.lineCount := by
  rw [Listing.total, reports, List.length_flatMap, List.map_map]
  rfl

lemma noted_reports (v : Verdict) :
    (v.reports.filter (·.messages.hasNote)).length = v.noteCount := by
  rw [reports, List.filter_map, List.length_map]
  rfl

/-- The reports that tell violations are those of the violated rules, if all violations tell
something. -/
lemma violated_reports (h : ∀ o ∈ v.outcomes, o.report.isEmpty = !o.hasViolation) :
    Listing.violated v.reports = v.violated.map Outcome.report := by
  rw [Listing.violated, reports, List.filter_map, violated]
  refine congrArg (List.map Outcome.report) (List.filter_congr fun o ho => ?_)
  rw [Function.comp_apply, h o ho, Bool.not_not]

/-- A violation is shown, if all violations tell something. -/
lemma isShownIn_render (h : ∀ o ∈ v.outcomes, o.report.isEmpty = !o.hasViolation) {o : Outcome}
    (ho : o ∈ v.outcomes) (hviolated : o.hasViolation = true) (format : Format) :
    o.report.IsShownIn (Listing.render v.reports format) format := by
  refine Listing.isShownIn_render ?_ format
  rw [violated_reports h]
  exact List.mem_map_of_mem (List.mem_filter.mpr ⟨ho, hviolated⟩)

/-- Counting violations and counting lines comes to the same, if all violations tell something. -/
lemma listed_of_isEmpty_report (h : ∀ o ∈ v.outcomes, o.report.isEmpty = !o.hasViolation) :
    v.Listed where
  violated_iff o ho := by
    have hempty : o.hasViolation = true ↔ o.report.isEmpty = false := by
      rw [h o ho, Bool.not_eq_false']
    exact ⟨hempty, hempty.trans List.isEmpty_eq_false_iff⟩
  shown _ ho hviolated := isShownIn_render h ho hviolated
  failing_shown hfailing := by
    obtain ⟨o, ho⟩ := List.exists_mem_of_length_pos hfailing
    obtain ⟨hmem, hfails⟩ := List.mem_filter.mp ho
    rw [fails, Bool.and_eq_true, decide_eq_true_eq] at hfails
    obtain ⟨hviolated, hpriority⟩ := hfails
    have hlines : o.report.isEmpty = false := by rw [h o hmem, hviolated, Bool.not_true]
    exact ⟨o.report, List.mem_map_of_mem hmem, List.isEmpty_eq_false_iff.mp hlines, hpriority,
      isShownIn_render h hmem hviolated⟩
  text_eq := by
    rw [Listing.toList_render_text, violated_reports h, List.flatMap_map]
    rfl
  blocks_length := by rw [Listing.blocks, List.length_map, violated_reports h, List.length_map]
  summary_eq := by
    rw [Listing.summary, total_reports, noted_reports, violated_reports h, List.length_map, reports,
      List.length_map]
  json_told := by
    have htold := Report.areToldBy_toDatum v.reports
    refine ⟨_, Report.ofJson_render v.reports, htold, ?_, ?_⟩
    · rw [htold.evaluated_eq, reports, List.length_map]
    · have hcount : (Listing.violated v.reports).length = v.violated.length := by
        rw [violated_reports h, List.length_map]
      exact congrArg (fun n => some (Datum.natural n)) hcount
  compact_eq := by
    rw [Listing.toList_render_compact, reports, List.flatMap_map]
    rfl
  entries_length := by rw [Listing.entries_length, total_reports]

end Verdict

/-! ### Engines -/

/-- If all violations tell something, the report is without lines only if there are none. -/
lemma Outcome.isEmpty_report {o : Outcome} (h : ∀ e ∈ o.violations, e.lines ≠ []) :
    o.report.isEmpty = !o.hasViolation := by
  have hlines : o.report.isEmpty = (o.violations.flatMap Event.lines).isEmpty :=
    (Text.sortLines_perm _).isEmpty_eq
  rw [hlines, hasViolation, Bool.not_not, Bool.eq_iff_iff, List.isEmpty_iff, List.isEmpty_iff,
    Event.flatMap_lines_eq_nil_iff h]

namespace Engine

/-- The violations that a rule keeps are among those it finds, and each of those tells
something. -/
lemma isEmpty_report_evaluate {p : Policy} {s : Settings} {r : Rule Graph} (hr : r ∈ rulesFor p s)
    (g : Graph) : (Rule.evaluate g r).report.isEmpty = !(Rule.evaluate g r).hasViolation := by
  obtain ⟨found, hfound, hfinds⟩ := exists_finding hr
  refine Outcome.isEmpty_report fun e he => ?_
  rw [hfinds.violations_eq] at he
  exact hfound.lines_ne_nil ((limited_sublist _ _).mem he)

/-- **Verdict and listing agree**: whatever engine evaluates whatever graph, an outcome has a
violation iff its report has a line, so what makes a check fail is printed in every form, with its
priority, its rule and all its lines. The blocks of text, the summary and the JSON listing have as
many violated rules as there are outcomes with violations, and the summary and the compact listing
as many lines as all reports. -/
theorem evaluateOnly_listed {p : Policy} {s : Settings} {e : Engine} {g : Graph}
    {only : List String} {os : List Outcome} (hbuild : build p s = .ok e)
    (hos : e.evaluateOnly g only = .ok os) (threshold : Priority) :
    (Verdict.mk os threshold).Listed := by
  obtain ⟨-, rfl⟩ := build_eq_ok_iff.mp hbuild
  obtain ⟨rest, -, rfl⟩ := evaluateOnly_eq_ok_iff.mp hos
  refine Verdict.listed_of_isEmpty_report fun o ho => ?_
  obtain ⟨r, hr, rfl⟩ := List.mem_map.mp ho
  exact isEmpty_report_evaluate (List.mem_of_mem_filter hr) rest

end Engine

end

namespace Engine

lemma exists_violated_shop :
    ∃ r ∈ rulesFor .shop { Settings.standard with maxViolations := some 1 },
      (Rule.evaluate .shop r).hasViolation = true := by
  refine ⟨_, List.mem_append_right _ (List.mem_filterMap.mpr ⟨_, .head _, rfl⟩), ?_⟩
  rw [← Bool.not_eq_false, (Rule.finds_dependencyPattern _ _ _ _).hasViolation_eq_false_iff
    (by decide), ← List.isEmpty_iff]
  decide

/-- The shop has rules of all kinds, of which at least one is violated. -/
theorem evaluateOnly_listed_shop :
    let s := { Settings.standard with maxViolations := some 1 }
    let e := assembled .shop s
    let os := e.rules.map (Rule.evaluate .shop)
    build .shop s = .ok e ∧ e.evaluateOnly .shop [] = .ok os ∧
      0 < (Verdict.mk os .low).failing.length ∧ (Verdict.mk os .low).Listed := by
  intro s e os
  have hbuild : build .shop s = .ok e :=
    build_eq_ok_iff.mpr ⟨Policy.problem?_eq_none_iff.mpr (by decide +kernel), rfl⟩
  have hos : e.evaluateOnly .shop [] = .ok os :=
    evaluateOnly_eq_ok_iff.mpr ⟨.shop, rfl, by simp [os, selected]⟩
  have hfailing : 0 < (Verdict.mk os .low).failing.length := by
    obtain ⟨r, hr, hviolated⟩ := exists_violated_shop
    refine List.length_pos_of_mem (List.mem_filter.mpr ⟨List.mem_map_of_mem hr, ?_⟩)
    rw [Verdict.fails, hviolated, Bool.true_and, decide_eq_true_eq]
    exact Nat.zero_le _
  exact ⟨hbuild, hos, hfailing, evaluateOnly_listed hbuild hos .low⟩

end Engine

end Strata
