import Strata.Graph

/-!
Payloads: the objects that cause an event.

A payload is a dependency, an element or an object of some other kind; which other kinds there are
is a parameter (`Kinds`), and so is the type of the objects of each. The payloads of one event may
be of different kinds. A handler that is interested in one kind asks each payload for it with
`Payload.as?`. Main statement: `as?_isSome_iff`, a payload answers to its own kind and to no other.
-/

namespace Strata

/-- A universe of kinds: what can cause an event besides dependencies and elements. -/
class Kinds where
  Other : Type
  /-- The type of the objects of a kind. -/
  Carrier : Other → Type
  decidableEqOther : DecidableEq Other

variable [Kinds]

instance : DecidableEq Kinds.Other := Kinds.decidableEqOther

/-- The kinds of objects that can cause an event. -/
inductive PayloadKind where
  | dependency
  | element
  | other (k : Kinds.Other)
  deriving DecidableEq

/-- The type of the objects of a kind. -/
def PayloadKind.Carrier : PayloadKind → Type
  | dependency => Dependency
  | element => Element
  | other k => Kinds.Carrier k

/-- An object that causes an event. -/
inductive Payload where
  | dependency (d : Dependency)
  | element (e : Element)
  | other (k : Kinds.Other) (a : Kinds.Carrier k)

namespace Payload

/-- The kind of a payload. -/
def kind : Payload → PayloadKind
  | dependency _ => .dependency
  | element _ => .element
  | other k _ => .other k

/-- The object itself, if it is of the given kind. -/
def as? : (k : PayloadKind) → Payload → Option k.Carrier
  | .dependency, dependency d => some d
  | .element, element e => some e
  | .other k, other k' a => if h : k' = k then some (h ▸ a) else none
  | _, _ => none

/-- A payload answers to its own kind and to no other. -/
theorem as?_isSome_iff {k : PayloadKind} {p : Payload} : (p.as? k).isSome = true ↔ p.kind = k := by
  cases k <;> cases p
  case dependency.dependency | element.element => exact iff_of_true rfl rfl
  all_goals simp [as?, kind]

end Payload

end Strata
