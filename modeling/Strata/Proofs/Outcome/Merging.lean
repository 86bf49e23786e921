import Strata.Payload.Plain
import Strata.Proofs.Outcome.Named
import Strata.Proofs.Outcome.Violations
import Strata.Proofs.Text.Sorting

/-!
Outcomes that are merged, one after the other. What is appended keeps its order, but a report sorts
its lines, so the lines and the number of violations do not depend on the order of the parts; the
note does, for the first one stays. Main statement: `report_mergeAll`.
-/

namespace Strata

section

variable [Kinds]

namespace Outcome

variable {o : Outcome} {parts parts' : List Outcome}

lemma merge_assoc (a b c : Outcome) : (a.merge b).merge c = a.merge (b.merge c) :=
  Outcome.ext rfl rfl (List.append_assoc _ _ _) Option.or_assoc

/-! ### The order of the parts -/

lemma violations_mergeAll_perm (h : parts.Perm parts') (o : Outcome) :
    (o.mergeAll parts).violations.Perm (o.mergeAll parts').violations := by
  rw [violations_mergeAll, violations_mergeAll]
  exact (h.flatMap_right violations).append_left o.violations

lemma details_mergeAll_eq_of_perm (h : parts.Perm parts') (o : Outcome) :
    (o.mergeAll parts).report.details = (o.mergeAll parts').report.details :=
  Text.sortLines_eq_of_perm ((violations_mergeAll_perm h o).flatMap_right Event.lines)

/-! ### The report of all -/

/-- What an outcome and the parts that are merged into it come to. -/
structure IsTotal (o : Outcome) (parts : List Outcome) (total : Outcome) : Prop where
  rule_eq : total.report.rule = o.rule
  priority_eq : total.report.priority = o.priority
  note_eq : total.report.messages.note = (o :: parts).findSome? note
  violations_eq : total.violations = (o :: parts).flatMap violations
  details_sorted : total.report.details.Pairwise fun a b => Text.bytes a ≤ Text.bytes b
  /-- No line is lost, and none is left out because it is there already. -/
  details_perm : total.report.details.Perm
    ((o :: parts).flatMap fun part => part.violations.flatMap Event.lines)

lemma isTotal_mergeAll (o : Outcome) (parts : List Outcome) :
    o.IsTotal parts (o.mergeAll parts) where
  rule_eq := rule_mergeAll o parts
  priority_eq := priority_mergeAll o parts
  note_eq := by
    rw [List.findSome?_cons]
    refine (note_mergeAll o parts).trans ?_
    cases o.note <;> rfl
  violations_eq := violations_mergeAll o parts
  details_sorted := (Text.sortLines_pairwise _).imp Text.atMost_iff.mp
  details_perm := by
    rw [← List.flatMap_assoc, List.flatMap_cons, ← violations_mergeAll]
    exact Text.sortLines_perm _

end Outcome

/-! ### Merging what is kept under names -/

namespace Outcomes

/-- The outcomes under some names are merged, in order, into the one under the name `target`. -/
def mergeInto (kept : Outcomes) (target : String) (names : List String) : Outcomes :=
  kept.run (names.map (.merge target))

/-- Merging changes the outcome into which it merges and no other. -/
lemma mergeInto_eq_update {target : String} {names : List String} (h : target ∉ names)
    (kept : Outcomes) : kept.mergeInto target names =
      Function.update kept target ((kept target).mergeAll (names.map kept)) := by
  induction names generalizing kept with
  | nil => exact (Function.update_eq_self target kept).symm
  | cons name names ih =>
      have hname : target ∉ names := List.not_mem_of_not_mem_cons h
      let next : Outcomes := kept.act (.merge target name)
      have hnext : next = Function.update kept target ((kept target).merge (kept name)) := rfl
      -- The parts that follow are read from what is kept by then, but none of them is the target.
      have hparts : names.map next = names.map kept :=
        List.map_congr_left fun n hn => act_of_ne fun heq : target = n => hname (heq ▸ hn)
      calc kept.mergeInto target (name :: names)
          = next.mergeInto target names := rfl
        _ = Function.update next target ((next target).mergeAll (names.map next)) := ih hname next
        _ = Function.update kept target (((kept target).merge (kept name)).mergeAll
              (names.map kept)) := by
            rw [hparts, hnext, Function.update_idem, Function.update_self]

end Outcomes

namespace Outcome

/-- **Merged reports**: they have all lines of all parts, sorted, in whatever order the parts are
merged, and the first note that is there. Merging is associative and leaves the parts as they
are. -/
theorem report_mergeAll {parts parts' : List Outcome} (h : parts.Perm parts') (o : Outcome) :
    (o.mergeAll parts).report.details = (o.mergeAll parts').report.details ∧
      (o.mergeAll parts).count = (o.mergeAll parts').count ∧
      o.IsTotal parts (o.mergeAll parts) ∧
      (∀ a b c : Outcome, (a.merge b).merge c = a.merge (b.merge c)) ∧
      ∀ (kept : Outcomes) (target : String) (names : List String), target ∉ names →
        kept.mergeInto target names =
          Function.update kept target ((kept target).mergeAll (names.map kept)) :=
  ⟨details_mergeAll_eq_of_perm h o, (violations_mergeAll_perm h o).length_eq,
    o.isTotal_mergeAll parts, merge_assoc, fun kept _ _ hnames =>
      Outcomes.mergeInto_eq_update hnames kept⟩

end Outcome

end

namespace Outcome

/-- One line comes twice, and one is not ASCII and comes last, by its bytes. -/
theorem report_mergeAll_swapped :
    let part (note : String) (ls : List String) : Outcome :=
      ofLog "part" ((EventLog.empty.add (.simple [] false ls)).setNote note) .low
    let first := part "one of many" ["é", "a"]
    let second := part "none of many" ["z", "a"]
    let o := ofLog "r" (EventLog.empty.add (.simple [] false ["Z"])) .high
    let kept : Outcomes := Function.update (Function.update (fun _ => o) "1" first) "2" second
    [first, second].Perm [second, first] ∧
      (o.mergeAll [second, first]).report.details = ["Z", "a", "a", "z", "é"] ∧
      (o.mergeAll [first, second]).report.messages.note = some "one of many" ∧
      (o.mergeAll [second, first]).report.messages.note = some "none of many" ∧
      kept.mergeInto "0" ["1", "2"] = Function.update kept "0" (o.mergeAll [first, second]) := by
  intro part first second o kept
  have hperm : [first, second].Perm [second, first] := .swap _ _ _
  obtain ⟨hdetails, -, htotal, -, hkept⟩ := report_mergeAll hperm o
  obtain ⟨-, -, htotal', -, -⟩ := report_mergeAll hperm.symm o
  refine ⟨hperm, ?_, htotal.note_eq, htotal'.note_eq, hkept kept "0" ["1", "2"] (by decide)⟩
  rw [← hdetails]
  exact Text.eq_of_pairwise_atMost (htotal.details_sorted.imp Text.atMost_iff.mpr)
    (by decide +kernel) (htotal.details_perm.trans (by decide))

end Outcome

end Strata
