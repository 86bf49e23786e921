import Mathlib.Algebra.Ring.Nat
import Mathlib.Data.List.Basic
import Strata.Payload.Plain
import Strata.Proofs.Rule.Composition

/-!
Composed rules inside composed rules. As long as only the outermost one has a limit, it does not
matter how its checks are grouped: their violations come one after the other from left to right,
and of their notes the first one stays. Main statement: `evaluate_compose_leaves`, a composed rule
evaluates to the same as one that has all these checks as its parts.
-/

namespace Strata

section Search

variable {α β κ : Type}

lemma findSome?_congr {f g : α → Option β} {items : List α} (h : ∀ a ∈ items, f a = g a) :
    items.findSome? f = items.findSome? g := by
  rw [← List.head?_filterMap, ← List.head?_filterMap, List.filterMap_congr h]

/-- A search that goes through lists one after the other. -/
lemma findSome?_flatMap (f : α → Option β) (items : κ → List α) (ks : List κ) :
    (ks.flatMap items).findSome? f = ks.findSome? fun k => (items k).findSome? f := by
  simp only [← List.head?_filterMap, List.filterMap_flatMap, List.head?_flatMap]

end Search

section

variable [Kinds]

/-! ### Outcomes but for their description -/

/-- The outcome with another description of its rule. -/
def Outcome.describedAs (rule : String) (o : Outcome) : Outcome := { o with rule }

/-- Outcomes of one priority with the same violations and note differ in their description at
most. -/
lemma Outcome.eq_describedAs {o o' : Outcome} {rule : String} (hrule : o.rule = rule)
    (hpriority : o.priority = o'.priority) (hviolations : o.violations = o'.violations)
    (hnote : o.note = o'.note) : o = o'.describedAs rule :=
  Outcome.ext hrule hpriority hviolations hnote

/-- What is cut off does not depend on the description. -/
lemma Outcome.cut_describedAs (rule : String) (limit : Option Nat) (o : Outcome) :
    (o.describedAs rule).cut limit = (o.cut limit).describedAs rule := by
  cases limit <;> rfl

namespace Rule

variable {γ : Type} {input : γ} {c : Composition} {parts : List (Rule γ)}

/-! ### The checks of a rule -/

mutual

/-- The checks of which a rule is composed, at any depth, from left to right. -/
def leaves : Rule γ → List (Check γ)
  | check c => [c]
  | compose _ parts => leavesOf parts

/-- The checks of which rules are composed. -/
def leavesOf : List (Rule γ) → List (Check γ)
  | [] => []
  | r :: rest => leaves r ++ leavesOf rest

end

lemma leavesOf_eq_flatMap (rules : List (Rule γ)) : leavesOf rules = rules.flatMap leaves := by
  induction rules with
  | nil => rfl
  | cons r rest ih => rw [leavesOf, ih, List.flatMap_cons]

/-- No rule that is composed anywhere in a rule has a limit. -/
inductive Unlimited : Rule γ → Prop where
  | check (c : Check γ) : Unlimited (.check c)
  | compose {c : Composition} {parts : List (Rule γ)} (hlimit : c.limit = none)
      (hparts : ∀ r ∈ parts, Unlimited r) : Unlimited (.compose c parts)

/-- A rule without limits holds the violations of all its checks. -/
lemma Unlimited.violations_evaluate {r : Rule γ} (h : r.Unlimited) (input : γ) :
    (evaluate input r).violations = r.leaves.flatMap fun c => (c.evaluate input).violations := by
  induction h with
  | check c => rw [evaluate_check, leaves, List.flatMap_singleton]
  | compose hlimit _ ih =>
      rw [evaluate_compose, hlimit, Outcome.cut_none, Outcome.violations_mergeAll, leaves,
        leavesOf_eq_flatMap, List.flatMap_assoc, List.flatMap_map]
      exact List.flatMap_congr ih

/-- A rule without limits has the first note that any of its checks has. -/
lemma Unlimited.note_evaluate {r : Rule γ} (h : r.Unlimited) (input : γ) :
    (evaluate input r).note = r.leaves.findSome? fun c => (c.evaluate input).note := by
  induction h with
  | check c => simp [leaves]
  | compose hlimit _ ih =>
      rw [evaluate_compose, hlimit, Outcome.cut_none, Outcome.note_mergeAll, leaves,
        leavesOf_eq_flatMap, findSome?_flatMap, List.findSome?_map]
      exact findSome?_congr ih

/-! ### Checks without their groups -/

/-- The checks of rules, each a rule of its own. -/
def leafRules (rules : List (Rule γ)) : List (Rule γ) := (rules.flatMap leaves).map .check

lemma unlimited_of_mem_leafRules {r : Rule γ} (h : r ∈ leafRules parts) : r.Unlimited := by
  obtain ⟨c, _, rfl⟩ := List.mem_map.mp h
  exact .check c

lemma flatMap_leaves_leafRules (rules : List (Rule γ)) :
    (leafRules rules).flatMap leaves = rules.flatMap leaves := by
  rw [leafRules, List.flatMap_map]
  exact List.flatMap_singleton' _

section Merging

variable (h : ∀ r ∈ parts, r.Unlimited) (input : γ)

include h

lemma flatMap_violations_evaluate :
    (parts.flatMap fun r => (evaluate input r).violations) =
      (parts.flatMap leaves).flatMap fun c => (c.evaluate input).violations := by
  rw [List.flatMap_assoc]
  exact List.flatMap_congr fun r hr => (h r hr).violations_evaluate input

lemma findSome?_note_evaluate :
    (parts.findSome? fun r => (evaluate input r).note) =
      (parts.flatMap leaves).findSome? fun c => (c.evaluate input).note := by
  rw [findSome?_flatMap]
  exact findSome?_congr fun r hr => (h r hr).note_evaluate input

/-- Before the cut the parts come to the same as their checks. -/
lemma mergeAll_evaluate_leafRules (description description' : String) (priority : Priority) :
    (Outcome.empty description priority).mergeAll (parts.map (evaluate input)) =
      ((Outcome.empty description' priority).mergeAll
        ((leafRules parts).map (evaluate input))).describedAs description := by
  have hleaves : ∀ r ∈ leafRules parts, r.Unlimited := fun r => unlimited_of_mem_leafRules
  refine Outcome.eq_describedAs (Outcome.rule_mergeAll _ _) ?_ ?_ ?_
  · rw [Outcome.priority_mergeAll, Outcome.priority_mergeAll]
    rfl
  · rw [Outcome.violations_mergeAll, Outcome.violations_mergeAll, List.flatMap_map,
      List.flatMap_map, flatMap_violations_evaluate h, flatMap_violations_evaluate hleaves,
      flatMap_leaves_leafRules]
    rfl
  · rw [Outcome.note_mergeAll, Outcome.note_mergeAll, List.findSome?_map, List.findSome?_map]
    exact congrArg _ ((findSome?_note_evaluate h input).trans
      ((congrArg _ (flatMap_leaves_leafRules parts)).symm.trans
        (findSome?_note_evaluate hleaves input).symm))

end Merging

/-- A composed rule and its checks without their groups differ in their description at most. -/
lemma evaluate_compose_eq_describedAs {c : Composition} (h : ∀ r ∈ parts, r.Unlimited)
    (parallel : Bool) (input : γ) :
    evaluate input (.compose c parts) =
      (evaluate input (.compose { c with parallel } (leafRules parts))).describedAs
        (description (.compose c parts)) := by
  rw [evaluate_compose, evaluate_compose, ← Outcome.cut_describedAs,
    mergeAll_evaluate_leafRules h input]

/-- Checks that have nothing to note leave it to the limit. -/
lemma note_evaluate_leafRules {c : Composition} {input : γ}
    (h : ∀ o ∈ (parts.flatMap leaves).map fun leaf => leaf.evaluate input,
      o.Reached ∧ o.note = none) :
    (evaluate input (.compose c (leafRules parts))).note =
      EventLog.limitNote c.limit
        (((parts.flatMap leaves).map fun leaf => leaf.evaluate input).map Outcome.count).sum := by
  have hleaf : ∀ r ∈ leafRules parts,
      (evaluate input r).OnlyViolations ∧ (evaluate input r).note = none := by
    intro r hr
    obtain ⟨leaf, hleaf, rfl⟩ := List.mem_map.mp hr
    obtain ⟨hreached, hnote⟩ := h _ (List.mem_map_of_mem hleaf)
    rw [evaluate_check]
    exact ⟨hreached.onlyViolations, hnote⟩
  have hnone : ((leafRules parts).findSome? fun r => (evaluate input r).note) = none :=
    List.findSome?_eq_none_iff.mpr fun r hr => (hleaf r hr).2
  rw [note_evaluate_compose fun r hr => (hleaf r hr).1, hnone, Option.none_or, leafRules,
    List.flatMap_map, List.length_flatMap, List.map_map]
  simp only [evaluate_check]
  rfl

/-- **Grouping does not matter**: if no rule composed inside another one has a limit, the outer one
evaluates to the violations, the note and the priority to which its checks evaluate as its parts,
whatever is evaluated at the same time. If the outcomes of these, made from logs as all outcomes
are, have nothing to note, what the limit cuts off is noted with the number of all their
violations. -/
theorem evaluate_compose_leaves {c : Composition} {parts : List (Rule γ)}
    (h : ∀ r ∈ parts, r.Unlimited) (parallel : Bool) (input : γ) :
    let nested := evaluate input (.compose c parts)
    let flat := evaluate input (.compose { c with parallel } (leafRules parts))
    let told := (parts.flatMap leaves).map fun leaf => leaf.evaluate input
    nested.violations = flat.violations ∧ nested.note = flat.note ∧
      nested.priority = flat.priority ∧ nested.count = flat.count ∧
      ((∀ o ∈ told, o.Reached ∧ o.note = none) → ∀ n, c.limit = some n →
        n < (told.map Outcome.count).sum →
        nested.note = some (toString (told.map Outcome.count).sum ++ " times, only the first " ++
          toString n ++ " are listed")) := by
  intro nested flat told
  have hsame : nested = flat.describedAs (description (.compose c parts)) :=
    evaluate_compose_eq_describedAs h parallel input
  have hnote : nested.note = flat.note := by
    rw [hsame]
    rfl
  refine ⟨by rw [hsame]; rfl, hnote, by rw [hsame]; rfl, by rw [hsame]; rfl,
    fun htold n hlimit hn => ?_⟩
  rw [hnote, note_evaluate_leafRules htold, hlimit, EventLog.limitNote_some,
    if_neg (Nat.not_le.mpr hn)]

end Rule

end

namespace Rule

/-- A check that tells the same lines about everything, each as a violation. -/
def telling (lines : List String) (limit : Option Nat) : Check Unit :=
  .ofLog "telling" "tell" .low
    (fun _ => (EventLog.withLimit limit).addAll (lines.map (.single .nothing false))) fun _ => []

/-- Three checks, two of them in a group with an empty group between them. One has a limit that it
does not exceed, and of all four violations two are kept. -/
theorem evaluate_compose_leaves_telling :
    let c : Composition := ⟨"all", none, .high, some 2, true⟩
    let parts : List (Rule Unit) :=
      [.compose ⟨"left", none, .low, none, false⟩
        [.check (telling ["b", "a"] none), .compose ⟨"empty", none, .medium, none, true⟩ [],
          .check (telling ["c"] (some 1))],
       .check (telling ["d"] none)]
    let nested := evaluate () (.compose c parts)
    let flat := evaluate () (.compose { c with parallel := false }
      [.check (telling ["b", "a"] none), .check (telling ["c"] (some 1)),
        .check (telling ["d"] none)])
    (∀ r ∈ parts, r.Unlimited) ∧ nested.violations = flat.violations ∧ nested.note = flat.note ∧
      nested.priority = flat.priority ∧ nested.count = flat.count ∧
      nested.note = some "4 times, only the first 2 are listed" := by
  intro c parts nested flat
  have hparts : ∀ r ∈ parts, r.Unlimited := by
    intro r hr
    simp only [parts, List.mem_cons, List.not_mem_nil, or_false] at hr
    rcases hr with rfl | rfl
    · refine .compose rfl fun r hr => ?_
      simp only [List.mem_cons, List.not_mem_nil, or_false] at hr
      rcases hr with rfl | rfl | rfl
      · exact .check _
      · exact .compose rfl nofun
      · exact .check _
    · exact .check _
  obtain ⟨hviolations, hnote, hpriority, hcount, htotal⟩ :=
    evaluate_compose_leaves (c := c) hparts false ()
  have htold : ∀ o ∈ (parts.flatMap leaves).map fun leaf => leaf.evaluate (),
      o.Reached ∧ o.note = none := by
    intro o ho
    simp only [parts, List.flatMap_cons, leaves, leavesOf, List.flatMap_nil, List.append_nil,
      List.nil_append, List.cons_append, List.map_cons, List.map_nil, List.mem_cons,
      List.not_mem_nil, or_false] at ho
    rcases ho with rfl | rfl | rfl <;> exact ⟨.ofLog _ _ _, rfl⟩
  have hsum : (((parts.flatMap leaves).map fun leaf =>
      leaf.evaluate ()).map Outcome.count).sum = 4 := rfl
  refine ⟨hparts, hviolations, hnote, hpriority, hcount, ?_⟩
  rw [htotal htold 2 rfl (by rw [hsum]; decide), hsum]
  rfl

end Rule

end Strata
