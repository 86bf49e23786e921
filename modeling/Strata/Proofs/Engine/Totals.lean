import Mathlib.Data.List.Forall2
import Strata.Payload.Plain
import Strata.Proofs.Engine.Capping
import Strata.Proofs.Engine.Delivery

/-!
How often a rule was violated, as reports say it. A report with a note counts violations, and one
without counts lines, so with a maximum of violations a report may speak of fewer than without, and
list more lines than the maximum. Main statement: `build_withMaximum_totals`, what both reports say,
and that they agree exactly where each violation has one line.
-/

namespace Strata

/-! ### Lines and violations -/

section Lines

variable {α β : Type} {f : α → List β} {l : List α}

/-- If nothing is without parts, there are at least as many parts as things. -/
lemma length_le_length_flatMap (h : ∀ a ∈ l, f a ≠ []) : l.length ≤ (l.flatMap f).length := by
  induction l with
  | nil => exact Nat.zero_le _
  | cons a l ih =>
      obtain ⟨ha, hl⟩ := List.forall_mem_cons.mp h
      have hone : 1 ≤ (f a).length := List.length_pos_iff.mpr ha
      have hrest := ih hl
      rw [List.flatMap_cons, List.length_append, List.length_cons]
      omega

/-- There are as many parts as things exactly if each thing has one. -/
lemma length_eq_length_flatMap_iff (h : ∀ a ∈ l, f a ≠ []) :
    l.length = (l.flatMap f).length ↔ ∀ a ∈ l, (f a).length = 1 := by
  induction l with
  | nil => simp
  | cons a l ih =>
      obtain ⟨ha, hl⟩ := List.forall_mem_cons.mp h
      have hone : 1 ≤ (f a).length := List.length_pos_iff.mpr ha
      have hle := length_le_length_flatMap hl
      rw [List.flatMap_cons, List.length_append, List.length_cons, List.forall_mem_cons, ← ih hl]
      omega

end Lines

section

variable [Kinds]

namespace Outcome

lemma length_details (o : Outcome) :
    o.report.details.length = (o.violations.flatMap Event.lines).length :=
  (Text.sortLines_perm _).length_eq

/-- What the reports on an outcome say of its violations: the one on all of them, and the one on the
first `m`. -/
structure Totals (m : Nat) (full short : Outcome) : Prop where
  /-- Without a maximum the lines are counted. -/
  count_full : full.report.messages.count = toString full.report.details.length ++ " times"
  hasNote_iff : short.report.messages.hasNote = true ↔ m < full.count
  /-- With a maximum that hides something the violations are counted. -/
  count_short : m < full.count → short.report.messages.count =
    toString full.count ++ " times, only the first " ++ toString m ++ " are listed"
  details_short : short.report.details =
    Text.sortLines ((full.violations.take m).flatMap Event.lines)
  count_le : full.count ≤ full.report.details.length
  le_length_details : m < full.count → m ≤ short.report.details.length
  /-- The two counts are the same where each violation has one line. -/
  count_eq_iff : full.count = full.report.details.length ↔
    ∀ v ∈ full.violations, v.lines.length = 1
  length_details_eq : (∀ v ∈ full.violations, v.lines.length = 1) → m < full.count →
    short.report.details.length = m

namespace CutAt

variable {m : Nat} {full short : Outcome} (h : CutAt m full short)

include h

lemma violations_eq_take : short.violations = full.violations.take m := by
  rw [h.violations_eq, count, ← List.take_eq_take_min]

lemma mem_of_mem {v : Event} (hv : v ∈ short.violations) : v ∈ full.violations :=
  List.mem_of_mem_take (h.violations_eq_take ▸ hv)

lemma length_violations (hm : m < full.count) : short.violations.length = m := by
  rw [h.violations_eq_take, List.length_take_of_le (Nat.le_of_lt hm)]

/-- Where violations are not noted but counted by their lines, and none is without, both reports say
what there is. -/
lemma totals (hnote : full.note = none) (hlines : ∀ v ∈ full.violations, v.lines ≠ []) :
    Totals m full short where
  count_full := by
    show full.note.getD _ = _
    rw [hnote, Option.getD_none]
    rfl
  hasNote_iff := by
    show short.note.isSome = true ↔ _
    rw [h.note_eq, ← Nat.not_le]
    by_cases hm : full.count ≤ m
    · simp [hm]
    · simp [hm]
  count_short hm := by
    show short.note.getD _ = _
    rw [h.note_eq, if_neg (Nat.not_le.mpr hm), Option.getD_some]
  details_short := by
    rw [← h.violations_eq_take]
    rfl
  count_le := by
    rw [length_details]
    exact length_le_length_flatMap hlines
  le_length_details hm := by
    rw [length_details]
    calc m = short.violations.length := (h.length_violations hm).symm
      _ ≤ (short.violations.flatMap Event.lines).length :=
        length_le_length_flatMap fun v hv => hlines v (h.mem_of_mem hv)
  count_eq_iff := by
    rw [length_details]
    exact length_eq_length_flatMap_iff hlines
  length_details_eq hone hm := by
    have hshort : short.violations.length = (short.violations.flatMap Event.lines).length :=
      (length_eq_length_flatMap_iff fun v hv => hlines v (h.mem_of_mem hv)).mpr
        fun v hv => hone v (h.mem_of_mem hv)
    rw [length_details, ← hshort, h.length_violations hm]

end CutAt

end Outcome

/-- A basket that depends on orders in two ways, and a wish list that does so in one. -/
def Graph.baskets : Graph where
  elements := [⟨"shop.Basket", .classType⟩, ⟨"shop.Wishes", .classType⟩]
  dependencies := Graph.basket.dependencies ++
    [⟨"shop.Wishes", "shop.Order", .inheritance, none, none, none⟩]

namespace Engine

/-! ### Rules without a maximum and with one -/

/-- A rule without a maximum and the same rule with one, by what their reports say. -/
structure TellsTotals (m : Nat) (r r' : Rule Graph) : Prop where
  name_eq : r'.name = r.name
  totals : ∀ g, (Rule.evaluate g r).Totals m (Rule.evaluate g r')
  /-- All rules but the one about names tell each violation in one line. -/
  one_line : r.name ≠ Rule.namingName →
    ∀ g, ∀ v ∈ (Rule.evaluate g r).violations, v.lines.length = 1

variable {p : Policy} {s : Settings} {m : Nat}

lemma tellsTotals_of_capsAt {r r' : Rule Graph} (hr : r ∈ rulesFor p (s.withMaximum none))
    (hcaps : Rule.CapsAt m r r') : TellsTotals m r r' := by
  obtain ⟨found, hfound, hfinds⟩ := exists_finding hr
  refine ⟨hcaps.name_eq, fun g => ?_, fun hname g v hv => ?_⟩
  · refine (hcaps.cutAt g).totals ?_ fun v hv => ?_
    · rw [hfinds.note_eq]
      rfl
    · rw [hfinds.violations_eq] at hv
      exact hfound.lines_ne_nil ((limited_sublist _ _).mem hv)
  · obtain ⟨d, rfl⟩ := exists_dependency_of_name_ne hr hv hname
    rfl

/-- **How often a rule was violated**: without a maximum a report counts lines, with one that hides
something it counts violations and lists the lines of the first. There are at least as many lines as
violations, and as many exactly if each violation has one line; then both reports speak of the same
number, and as many lines are listed as the maximum says. -/
theorem build_withMaximum_totals {full : Engine} (hbuild : build p (s.withMaximum none) = .ok full)
    (m : Nat) :
    ∃ capped, build p (s.withMaximum (some m)) = .ok capped ∧
      List.Forall₂ (TellsTotals m) full.rules capped.rules := by
  obtain ⟨hvalid, rfl⟩ := build_eq_ok_iff.mp hbuild
  refine ⟨_, build_eq_ok_iff.mpr ⟨hvalid, rfl⟩, ?_⟩
  have hrules := (List.forall₂_and_left _ _).mpr ⟨fun r hr => hr, forall₂_capsAt_rulesFor p s m⟩
  exact hrules.imp fun r r' h => tellsTotals_of_capsAt h.1 h.2

end Engine

end

namespace Engine

/-- The shop has rules of all kinds. -/
theorem build_withMaximum_totals_shop :
    let full := assembled .shop (Settings.standard.withMaximum none)
    build .shop (Settings.standard.withMaximum none) = .ok full ∧
      ∃ capped, build .shop (Settings.standard.withMaximum (some 1)) = .ok capped ∧
        List.Forall₂ (TellsTotals 1) full.rules capped.rules := by
  intro full
  have hbuild : build .shop (Settings.standard.withMaximum none) = .ok full := build_shop
  exact ⟨hbuild, build_withMaximum_totals hbuild 1⟩

/-- The basket comes first and is told in two lines: without a maximum three lines are counted, and
with a maximum of one there are two violations, and two lines of the first are listed. -/
theorem count_baskets :
    let rule := Rule.naming (.ofLayers []) Policy.basket.constraints[0] default
    let full := Rule.evaluate .baskets (rule none)
    let short := Rule.evaluate .baskets (rule (some 1))
    (∀ m, ∃ e, build .basket (Settings.standard.withMaximum m) = .ok e ∧ e.rules = [rule m]) ∧
      full.report.messages.count = "3 times" ∧ short.report.messages.hasNote = true ∧
      short.report.messages.count = "2 times, only the first 1 are listed" ∧
      short.report.details.length = 2 := by
  intro rule full short
  have hfull := Rule.finds_naming (.ofLayers []) Policy.basket.constraints[0] default none
  have hshort := Rule.finds_naming (.ofLayers []) Policy.basket.constraints[0] default (some 1)
  refine ⟨fun m => ⟨_, build_basket, rfl⟩, ?_, ?_, ?_, ?_⟩
  · show full.note.getD (toString full.report.details.length ++ " times") = _
    rw [Outcome.length_details, hfull.note_eq, hfull.violations_eq]
    rfl
  · show short.note.isSome = true
    rw [hshort.note_eq]
    rfl
  · show short.note.getD _ = _
    rw [hshort.note_eq]
    rfl
  · rw [Outcome.length_details, hshort.violations_eq]
    rfl

end Engine

end Strata
