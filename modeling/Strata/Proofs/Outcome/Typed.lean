import Strata.Proofs.Outcome.Delivery

/-!
What is handed on to a handler of one kind of payloads. Each payload of a call is asked for an
object of the kind, and the call is skipped as soon as one has none. A typed call is the untyped
call with its objects taken out of their payloads; `Delivery.of` puts them back in.

* `map_of_deliveriesOf`: the typed calls are the untyped calls with payloads of that kind only;
* `Event.deliveriesOf_ne_nil_iff`: the kinds to whose handlers an event is handed on;
* `TypesCalls`: what this means for a whole outcome.
-/

namespace Strata

variable [Kinds]

/-! ### Payloads of one kind -/

namespace Payload

/-- An object as a payload of its kind. -/
def of : (k : PayloadKind) → k.Carrier → Payload
  | .dependency, d => dependency d
  | .element, e => element e
  | .other k, a => other k a

lemma as?_other (k k' : Kinds.Other) (a : Kinds.Carrier k') :
    as? (.other k) (other k' a) = if h : k' = k then some (h ▸ a) else none := rfl

lemma as?_eq_some_iff {k : PayloadKind} {p : Payload} {a : k.Carrier} :
    p.as? k = some a ↔ p = of k a := by
  constructor
  · intro h
    cases k <;> cases p
    case dependency.dependency | element.element =>
      cases h
      rfl
    case other.other k k' a' =>
      rw [as?_other] at h
      split at h
      case isTrue hkind =>
        subst hkind
        cases h
        rfl
      case isFalse => cases h
    all_goals cases h
  · rintro rfl
    cases k
    case other k => exact dif_pos rfl
    all_goals rfl

end Payload

namespace Delivery

variable {k : PayloadKind} {d : Delivery}

/-- Objects of one kind and a message as a call to a handler of all kinds. -/
def of (k : PayloadKind) (call : List k.Carrier × String) : Delivery :=
  ⟨call.1.map (Payload.of k), call.2⟩

/-- The call to a handler of one kind, if all payloads are of that kind. -/
def typed? (k : PayloadKind) (d : Delivery) : Option (List k.Carrier × String) :=
  (d.as? k).map (·, d.message)

/-- Whether all payloads are of one kind. -/
def isOf (k : PayloadKind) (d : Delivery) : Bool := d.payloads.all fun p => p.kind = k

lemma mapM_as?_eq_some_iff {payloads : List Payload} {objects : List k.Carrier} :
    payloads.mapM (Payload.as? k) = some objects ↔ payloads = objects.map (Payload.of k) := by
  induction payloads generalizing objects with
  | nil => cases objects <;> simp
  | cons p payloads ih =>
      rw [List.mapM_cons]
      simp only [Option.bind_eq_bind, Option.bind_eq_some_iff, Payload.as?_eq_some_iff, ih,
        Option.pure_def, Option.some.injEq]
      constructor
      · rintro ⟨a, rfl, rest, rfl, rfl⟩
        rfl
      · intro h
        obtain ⟨a, rest, rfl, hp, hrest⟩ := List.map_eq_cons_iff.mp h.symm
        exact ⟨a, hp.symm, rest, hrest.symm, rfl⟩

lemma typed?_eq_some_iff {call : List k.Carrier × String} :
    d.typed? k = some call ↔ d = of k call := by
  obtain ⟨payloads, message⟩ := d
  obtain ⟨objects, message'⟩ := call
  simp [typed?, of, as?, mapM_as?_eq_some_iff]

lemma isSome_mapM_as? (k : PayloadKind) (payloads : List Payload) :
    (payloads.mapM (Payload.as? k)).isSome = payloads.all fun p => p.kind = k := by
  induction payloads with
  | nil => rfl
  | cons p payloads ih =>
      have hp : (p.as? k).isSome = decide (p.kind = k) := by
        rw [Bool.eq_iff_iff, Payload.as?_isSome_iff, decide_eq_true_iff]
      rw [List.mapM_cons, List.all_cons, ← ih, ← hp]
      cases p.as? k with
      | none => rfl
      | some a => cases payloads.mapM (Payload.as? k) <;> rfl

/-- A call is typed as soon as all its payloads are of the kind. -/
lemma isSome_typed? (k : PayloadKind) (d : Delivery) : (d.typed? k).isSome = d.isOf k := by
  rw [typed?, Option.isSome_map, as?, isSome_mapM_as?, isOf]

end Delivery

/-! ### Typed calls -/

namespace Event

variable {e : Event} {k : PayloadKind}

/-- What an event hands on to a handler of one kind of payloads. -/
def deliveriesOf (k : PayloadKind) (e : Event) : List (List k.Carrier × String) :=
  e.deliveries.filterMap (Delivery.typed? k)

/-- An event is handed on to the handlers of a kind if that is the kind of all its payloads. -/
lemma deliveriesOf_ne_nil_iff :
    e.deliveriesOf k ≠ [] ↔ e.isHandedOn = true ∧ ∀ p ∈ e.whole.payloads, p.kind = k := by
  have hall : (e.whole.typed? k).isSome = true ↔ ∀ p ∈ e.whole.payloads, p.kind = k := by
    rw [Delivery.isSome_typed?, Delivery.isOf, List.all_eq_true]
    simp only [decide_eq_true_eq]
  rw [← hall, deliveriesOf, deliveries_eq]
  by_cases h : e.isHandedOn
  · cases ht : e.whole.typed? k <;> simp [h, ht]
  · simp [h]

/-- No payload is of two kinds. -/
lemma kind_eq_of_deliveriesOf_ne_nil {k' : PayloadKind} (hpayloads : e.whole.payloads ≠ [])
    (h : e.deliveriesOf k ≠ []) (h' : e.deliveriesOf k' ≠ []) : k = k' := by
  obtain ⟨p, hp⟩ := List.exists_mem_of_ne_nil _ hpayloads
  exact ((deliveriesOf_ne_nil_iff.mp h).2 p hp).symm.trans ((deliveriesOf_ne_nil_iff.mp h').2 p hp)

/-- An event without payloads is of all kinds. -/
lemma deliveriesOf_of_payloads_eq_nil (hpayloads : e.whole.payloads = []) :
    e.deliveriesOf k = if e.isHandedOn then [([], e.whole.message)] else [] := by
  have htyped : e.whole.typed? k = some ([], e.whole.message) := by
    rw [Delivery.typed?_eq_some_iff, Delivery.of, List.map_nil, ← hpayloads]
  rw [deliveriesOf, deliveries_eq]
  by_cases h : e.isHandedOn <;> simp [h, htyped]

end Event

namespace Outcome

variable (o : Outcome) (k : PayloadKind)

lemma deliveriesOf_eq_flatMap :
    o.deliveriesOf k = o.violations.flatMap (Event.deliveriesOf k) := by
  rw [deliveriesOf, deliveries, List.filterMap_flatMap]
  rfl

/-- **Typed calls**: put back into payloads, the typed calls are the calls of which all payloads are
of the kind, in the same order. -/
lemma map_of_deliveriesOf :
    (o.deliveriesOf k).map (Delivery.of k) = o.deliveries.filter (Delivery.isOf k) := by
  have hback : ∀ d : Delivery,
      (d.typed? k).map (Delivery.of k) = Option.guard (Delivery.isOf k) d := by
    intro d
    rw [Option.guard, ← Delivery.isSome_typed?]
    cases h : d.typed? k with
    | none => rfl
    | some call => exact congrArg some (Delivery.typed?_eq_some_iff.mp h).symm
  calc (o.deliveriesOf k).map (Delivery.of k)
      = o.deliveries.filterMap fun d => (d.typed? k).map (Delivery.of k) := List.map_filterMap
    _ = o.deliveries.filterMap (Option.guard (Delivery.isOf k)) := by rw [funext hback]
    _ = o.deliveries.filter (Delivery.isOf k) := by rw [List.filterMap_eq_filter]

/-- What an outcome hands on to a handler of one kind of payloads. -/
structure TypesCalls (k : PayloadKind) (o : Outcome) : Prop where
  /-- Put back into payloads, the calls are those that have payloads of the kind only, in order. -/
  map_of : (o.deliveriesOf k).map (Delivery.of k) = o.deliveries.filter (Delivery.isOf k)
  eq_flatMap : o.deliveriesOf k = o.violations.flatMap (Event.deliveriesOf k)
  /-- With payloads, a violation is not handed on to the handlers of another kind too. -/
  kind_unique : ∀ v ∈ o.violations, v.whole.payloads ≠ [] → v.deliveriesOf k ≠ [] →
    ∀ k', v.deliveriesOf k' ≠ [] → k' = k
  /-- Without payloads, a violation is handed on to the handlers of each kind, if it is at all. -/
  of_payloads_eq_nil : ∀ v ∈ o.violations, v.whole.payloads = [] →
    v.deliveriesOf k = if v.isHandedOn then [([], v.whole.message)] else []

lemma typesCalls : o.TypesCalls k where
  map_of := o.map_of_deliveriesOf k
  eq_flatMap := o.deliveriesOf_eq_flatMap k
  kind_unique _ _ hpayloads h _ h' := Event.kind_eq_of_deliveriesOf_ne_nil hpayloads h' h
  of_payloads_eq_nil _ _ hpayloads := Event.deliveriesOf_of_payloads_eq_nil hpayloads

end Outcome

end Strata
