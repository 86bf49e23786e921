import Mathlib.Data.List.Forall2
import Strata.Payload.Plain
import Strata.Proofs.Engine.Outcomes
import Strata.Proofs.Outcome.Typed
import Strata.Proofs.Rule.Findings

/-!
What the outcomes of an engine hand on. Their violations are told in full and have one payload each,
an element in those of the rule about names and a dependency in all others (`Event.TellsOne`). A
dependency is told in one line. An element is told in a line for each dependency that makes its name
matter, so a predicate may keep one of the lines and not the message that they make together.

* `evaluateOnly_narrow`: which violations of a narrowed outcome are handed on;
* `deliveriesOf_evaluateOnly`: what is handed on to the handlers of one kind of payloads.
-/

namespace Strata

section

variable [Kinds]

/-! ### Violations that rules find -/

/-- A violation is told in full and has one payload, of a given kind. -/
inductive Event.TellsOne (k : PayloadKind) : Event → Prop where
  | mk (payload : Payload) (hkind : payload.kind = k) (ls : List String) :
      TellsOne k (simple [payload] false ls)

namespace Event.TellsOne

variable {k : PayloadKind} {v : Event}

lemma isSimple (h : v.TellsOne k) : v.IsSimple := by
  obtain ⟨payload, -, ls⟩ := h
  exact .mk _ _ _

lemma isViolation_eq (h : v.TellsOne k) : v.isViolation = true := by
  obtain ⟨payload, -, ls⟩ := h
  rfl

/-- A violation with one payload is handed on to the handlers of one kind. -/
lemma deliveriesOf_ne_nil_iff (h : v.TellsOne k) (k' : PayloadKind) :
    v.deliveriesOf k' ≠ [] ↔ k' = k := by
  rw [Event.deliveriesOf_ne_nil_iff, and_iff_right h.isSimple.isHandedOn_eq]
  obtain ⟨payload, rfl, ls⟩ := h
  rw [whole, List.forall_mem_singleton, eq_comm]

end Event.TellsOne

lemma Dependency.tellsOne_violation (d : Dependency) : d.violation.TellsOne .dependency :=
  .mk (.dependency d) rfl _

lemma Constraint.tellsOne_nameViolation (c : Constraint) (g : Graph) (e : Element) :
    (c.nameViolation g e).TellsOne .element :=
  .mk (.element e) rfl _

/-! ### Two reasons for one violation -/

/-- A policy with one rule, about the names of what depends on orders. -/
def Policy.basket : Policy where
  graphPath := none
  exclude := []
  layers := []
  dependencies := .empty
  constraints := [{ Constraint.blank with
    kind := Constraint.namingRule, targetMatches := "Order", nameMustMatch := "Cart" }]

/-- A basket that depends on orders in two ways. -/
def Graph.basket : Graph where
  elements := [⟨"shop.Basket", .classType⟩]
  dependencies :=
    [⟨"shop.Basket", "shop.Order", .methodCall, none, none, none⟩,
     ⟨"shop.Basket", "shop.Order", .fieldType, none, none, none⟩]

namespace Engine

section Violations

variable {p : Policy} {s : Settings} {r : Rule Graph} {g : Graph} {v : Event}
  (hr : r ∈ rulesFor p s) (hv : v ∈ (Rule.evaluate g r).violations)

include hr hv

/-- What is told by another rule than the one about names is a dependency. -/
lemma exists_dependency_of_name_ne (hname : r.name ≠ Rule.namingName) :
    ∃ d : Dependency, v = d.violation := by
  rcases finds_of_mem_rulesFor hr with ⟨-, hfinds⟩ | ⟨-, c, -, hfinds⟩ | ⟨hnaming, -⟩
  · rw [hfinds.violations_eq] at hv
    obtain ⟨l, -, hl⟩ := List.mem_flatMap.mp ((limited_sublist _ _).mem hv)
    obtain ⟨d, -, rfl⟩ := List.mem_map.mp hl
    exact ⟨d, rfl⟩
  · rw [hfinds.violations_eq] at hv
    obtain ⟨d, -, rfl⟩ := List.mem_map.mp ((limited_sublist _ _).mem hv)
    exact ⟨d, rfl⟩
  · exact absurd hnaming hname

lemma tellsOne_dependency (hname : r.name ≠ Rule.namingName) : v.TellsOne .dependency := by
  obtain ⟨d, rfl⟩ := exists_dependency_of_name_ne hr hv hname
  exact d.tellsOne_violation

lemma tellsOne_element (hname : r.name = Rule.namingName) : v.TellsOne .element := by
  rcases finds_of_mem_rulesFor hr with ⟨hother, -⟩ | ⟨hother, -⟩ | ⟨-, c, -, hfinds⟩
  · exact absurd (hother.symm.trans hname) (by decide)
  · exact absurd (hother.symm.trans hname) (by decide)
  · rw [hfinds.violations_eq] at hv
    obtain ⟨e, -, rfl⟩ := List.mem_map.mp ((limited_sublist _ _).mem hv)
    exact c.tellsOne_nameViolation g e

lemma exists_tellsOne : ∃ k, v.TellsOne k := by
  by_cases hname : r.name = Rule.namingName
  · exact ⟨_, tellsOne_element hr hv hname⟩
  · exact ⟨_, tellsOne_dependency hr hv hname⟩

end Violations

variable {p : Policy} {s : Settings} {e : Engine} {g : Graph} {only : List String}
  {os : List Outcome}

/-- What holds of all rules that are built and of their outcomes, holds of those of an engine. -/
lemma forall₂_evaluateOnly {R : Rule Graph → Outcome → Prop}
    (h : ∀ r ∈ rulesFor p s, ∀ rest, R r (Rule.evaluate rest r)) (hbuild : build p s = .ok e)
    (hos : e.evaluateOnly g only = .ok os) : List.Forall₂ R (e.selected only) os := by
  obtain ⟨-, rfl⟩ := build_eq_ok_iff.mp hbuild
  obtain ⟨rest, -, rfl⟩ := evaluateOnly_eq_ok_iff.mp hos
  rw [List.forall₂_map_right_iff, List.forall₂_same]
  exact fun r hr => h r (List.mem_of_mem_filter hr) rest

/-! ### An engine for the basket -/

/-- The only rule for the basket. -/
def basketRule : Rule Graph := Rule.naming (.ofLayers []) Policy.basket.constraints[0] default none

/-- The line about one of the two dependencies. -/
def callLine : String :=
  "Class <shop.Basket> calls method of <shop.Order>, but its name does not contain 'Cart'"

/-- The only violation of that rule. -/
def basketViolation : Event :=
  .simple [.element ⟨"shop.Basket", .classType⟩] false [callLine,
    "Class <shop.Basket> has field of type <shop.Order>, but its name does not contain 'Cart'"]

lemma build_basket : build .basket s = .ok (assembled .basket s) :=
  build_eq_ok_iff.mpr ⟨Policy.problem?_eq_none_iff.mpr (by decide +kernel), rfl⟩

lemma evaluateOnly_basket :
    (assembled .basket .standard).evaluateOnly .basket [] =
      .ok [Rule.evaluate .basket basketRule] :=
  evaluateOnly_eq_ok_iff.mpr ⟨.basket, rfl, rfl⟩

lemma violations_basket : (Rule.evaluate .basket basketRule).violations = [basketViolation] := by
  rw [basketRule, (Rule.finds_naming _ _ _ _).violations_eq]
  rfl

/-! ### Narrowed outcomes -/

/-- What is handed on of the outcome of a rule after a narrowing. -/
structure HandsOn (keep : String → Bool) (r : Rule Graph) (o : Outcome) : Prop where
  /-- Each violation that is left is handed on once, in order, if its whole message is kept too. -/
  deliveries_eq : (o.narrow keep).deliveries =
    ((o.narrow keep).violations.filter fun v => keep v.whole.message).map Event.whole
  length_eq_iff : (o.narrow keep).deliveries.length = (o.narrow keep).count ↔
    ∀ v ∈ (o.narrow keep).violations, keep v.whole.message = true
  /-- Where violations have one line each, all that are left are handed on. -/
  deliveries_eq_of_one_line :
    (r.name ≠ Rule.namingName ∨ ∀ v ∈ o.violations, v.lines.length = 1) →
      (o.narrow keep).deliveries = (o.narrow keep).violations.map Event.whole

lemma handsOn_evaluate {r : Rule Graph} (hr : r ∈ rulesFor p s) (rest : Graph)
    (keep : String → Bool) : HandsOn keep r (Rule.evaluate rest r) := by
  have hone : ∀ v ∈ (Rule.evaluate rest r).violations, ∃ k, v.TellsOne k :=
    fun v hv => exists_tellsOne hr hv
  have hsimple : ∀ v ∈ (Rule.evaluate rest r).violations, v.IsSimple :=
    fun v hv => (hone v hv).elim fun _ h => h.isSimple
  have honly : (Rule.evaluate rest r).OnlyViolations :=
    fun v hv => (hone v hv).elim fun _ h => h.isViolation_eq
  have hcalls := Outcome.deliveries_narrow_eq_filter hsimple keep honly
  refine ⟨hcalls, ?_, fun hcase => ?_⟩
  · rw [hcalls, List.length_map, ← List.countP_eq_length_filter, Outcome.count,
      List.countP_eq_length]
  · have hline : ∀ v ∈ (Rule.evaluate rest r).violations, v.lines.length = 1 := by
      rcases hcase with hname | hline
      · intro v hv
        obtain ⟨d, rfl⟩ := exists_dependency_of_name_ne hr hv hname
        rfl
      · exact hline
    rw [hcalls, List.filter_eq_self.mpr fun v hv =>
      Outcome.keep_message_of_mem_narrow hsimple keep hline honly hv]

/-- **Which violations of a narrowed outcome are handed on**: those of which the predicate keeps the
whole message too. They are all that are left iff it keeps all their messages, as it does where each
violation has one line, that is for all rules but the one about names. -/
theorem evaluateOnly_narrow (hbuild : build p s = .ok e) (hos : e.evaluateOnly g only = .ok os)
    (keep : String → Bool) : List.Forall₂ (HandsOn keep) (e.selected only) os :=
  forall₂_evaluateOnly (fun _ hr rest => handsOn_evaluate hr rest keep) hbuild hos

end Engine

end

namespace Engine

/-- A violation that is left and not handed on: of its two lines one is kept, but the message that
tells both is not. -/
theorem narrow_basket :
    let e := assembled .basket .standard
    let told := (Rule.evaluate .basket basketRule).narrow (· == callLine)
    build .basket .standard = .ok e ∧
      e.evaluateOnly .basket [] = .ok [Rule.evaluate .basket basketRule] ∧ told.count = 1 ∧
      told.report.details = [callLine] ∧ told.deliveries = [] := by
  intro e told
  have hlines : (Event.narrowed (· == callLine) basketViolation).lines = [callLine] := by
    decide +kernel
  have hviolation : (Event.narrowed (· == callLine) basketViolation).isViolation = true := by
    rw [Event.isViolation_narrowed, hlines]
    exact ⟨rfl, List.cons_ne_nil _ _⟩
  have htold : told.violations = [.narrowed (· == callLine) basketViolation] := by
    rw [Outcome.violations_narrow, violations_basket, List.map_singleton, List.filter_singleton,
      hviolation, cond_true]
  refine ⟨build_basket, evaluateOnly_basket, ?_, ?_, ?_⟩
  · rw [Outcome.count, htold, List.length_singleton]
  · rw [Outcome.report, Report.details, htold, List.flatMap_singleton, hlines]
    exact List.mergeSort_singleton _
  · have hmessage : (basketViolation.whole.message == callLine) = false := by decide +kernel
    rw [Outcome.deliveries_eq, htold, List.filter_singleton, Event.isHandedOn, hmessage,
      Bool.and_false, cond_false, List.map_nil]

/-- One rule for the shop finds the two dependencies on `java.sql`. -/
lemma exists_violations_sql_shop :
    ∃ r ∈ (assembled .shop .standard).rules, (Rule.evaluate .shop r).violations =
      ((Graph.shop.dependencies.drop 4).take 2).map Dependency.violation := by
  refine ⟨_, List.mem_append_right _ (List.mem_filterMap.mpr ⟨_, .head _, rfl⟩), ?_⟩
  rw [(Rule.finds_dependencyPattern _ _ _ _).violations_eq]
  rfl

/-- The shop has rules of all kinds. Of the two violations of one rule the predicate keeps one, and
this one is handed on. -/
theorem evaluateOnly_narrow_shop :
    let e := assembled .shop .standard
    let os := e.rules.map (Rule.evaluate .shop)
    let keep := (Text.contains · "java.sql.Row")
    build .shop .standard = .ok e ∧ e.evaluateOnly .shop [] = .ok os ∧
      (∃ o ∈ os, o.count = 2 ∧ (o.narrow keep).count = 1 ∧
        (o.narrow keep).deliveries.length = 1) ∧
      List.Forall₂ (HandsOn keep) (e.selected []) os := by
  intro e os keep
  obtain ⟨r, hr, htold⟩ := exists_violations_sql_shop
  refine ⟨build_shop, evaluateOnly_shop, ⟨_, List.mem_map_of_mem hr, ?_, ?_, ?_⟩,
    evaluateOnly_narrow build_shop evaluateOnly_shop keep⟩
  · rw [Outcome.count, htold]
    rfl
  · rw [Outcome.count, Outcome.violations_narrow, htold]
    decide +kernel
  · rw [Outcome.deliveries, Outcome.violations_narrow, htold]
    decide +kernel

end Engine

/-! ### Kinds of payloads -/

section

variable [Kinds]

/-- All violations are handed on to the handlers of one kind of payloads and to no others. -/
def Outcome.IsHandedTo (k : PayloadKind) (o : Outcome) : Prop :=
  ∀ v ∈ o.violations, ∀ k', v.deliveriesOf k' ≠ [] ↔ k' = k

namespace Engine

variable {p : Policy} {s : Settings} {e : Engine} {g : Graph} {only : List String}
  {os : List Outcome}

/-- The kind of payloads of the violations of a rule. -/
structure HandsOnKind (r : Rule Graph) (o : Outcome) : Prop where
  dependency : r.name = Rule.layerDependenciesName ∨ r.name = Rule.dependencyPatternName →
    o.IsHandedTo .dependency
  element : r.name = Rule.namingName → o.IsHandedTo .element

lemma handsOnKind_evaluate {r : Rule Graph} (hr : r ∈ rulesFor p s) (rest : Graph) :
    HandsOnKind r (Rule.evaluate rest r) where
  dependency hname _ hv := by
    have hne : r.name ≠ Rule.namingName := by
      rcases hname with hname | hname <;> rw [hname] <;> decide
    exact (tellsOne_dependency hr hv hne).deliveriesOf_ne_nil_iff
  element hname _ hv := (tellsOne_element hr hv hname).deliveriesOf_ne_nil_iff

/-- **What is handed on to the handlers of one kind**: of any outcome the calls with payloads of
that kind only, and of the outcomes of an engine the violations whose payload is of that kind. -/
theorem deliveriesOf_evaluateOnly (hbuild : build p s = .ok e)
    (hos : e.evaluateOnly g only = .ok os) (o : Outcome) (k : PayloadKind) :
    o.TypesCalls k ∧ List.Forall₂ HandsOnKind (e.selected only) os :=
  ⟨o.typesCalls k, forall₂_evaluateOnly (fun _ => handsOnKind_evaluate) hbuild hos⟩

end Engine

end

namespace Engine

/-- A violation without payloads that is handed on to no handler: one of its two lines is kept, but
the message that tells both is not. -/
theorem deliveriesOf_narrow_two_lines :
    let o := (Outcome.ofLog "r" (EventLog.empty.addAll [.simple [] false ["a", "b"]]) .high).narrow
      (· == "a")
    Outcome.Reached o ∧ o.count = 1 ∧ (∀ v ∈ o.violations, v.whole.payloads = []) ∧
      ∀ k, o.deliveriesOf k = [] := by
  intro o
  refine ⟨.narrow _ (.ofLog _ _ _), ?_, ?_, fun k => ?_⟩
  · decide
  · exact List.forall_mem_singleton.mpr rfl
  · have hcalls : o.deliveries = [] := by decide
    rw [Outcome.deliveriesOf, hcalls, List.filterMap_nil]

/-- A call with payloads of two kinds is skipped by the handlers of both, one without payloads by
those of none. -/
theorem deliveriesOf_evaluateOnly_shop :
    let e := assembled .shop .standard
    let os := e.rules.map (Rule.evaluate .shop)
    let cart : Element := ⟨"shop.Cart", .classType⟩
    let o := Outcome.ofLog "r" (EventLog.empty.addAll
      [.simple [.element cart, .truth true] false ["a"], .simple [.element cart] false ["b"],
        .simple [] false ["c"]]) .high
    build .shop .standard = .ok e ∧ e.evaluateOnly .shop [] = .ok os ∧
      o.deliveriesOf .element = [([cart], "b"), ([], "c")] ∧ o.TypesCalls .element ∧
      List.Forall₂ HandsOnKind (e.selected []) os := by
  intro e os cart o
  obtain ⟨htyped, hkinds⟩ :=
    deliveriesOf_evaluateOnly build_shop evaluateOnly_shop o .element
  exact ⟨build_shop, evaluateOnly_shop, rfl, htyped, hkinds⟩

end Engine

end Strata
