import Strata.Dictionary
import Strata.Layering
import Strata.Priority
import Strata.Toml.Document

/-!
Policies: which dependencies a code base may have, as a settings document says it.

A policy names the layers, says for each of them which others it may depend on, and adds
constraints. `Policy.parse` reads it; whether what it says makes sense is asked later.
-/

namespace Strata

/-- A constraint beside the layers. Which fields count depends on the kind, and an empty text means
that nothing is given. -/
structure Constraint where
  /-- What the document calls the type of the constraint. -/
  kind : String
  /-- What targets of dependencies must not contain. -/
  pattern : String
  /-- The layers to which the constraint applies; all elements if there are none. -/
  inLayers : List String
  priority : Option Priority
  /-- The description of the rule, if it is not made from the other fields. -/
  message : String
  /-- What the target of a dependency contains if the name of its origin is looked at. -/
  targetMatches : String
  nameMustMatch : String
  nameMustNotMatch : String
  deriving DecidableEq

namespace Constraint

/-- The kind that forbids dependencies. -/
def noDependencyPattern : String := "no-dependency-pattern"

/-- The kind that ties names to dependencies. -/
def namingRule : String := "naming-rule"

/-- The constraint in which nothing is given. -/
def blank : Constraint := ⟨"", "", [], none, "", "", "", ""⟩

end Constraint

/-- Which dependencies a code base may have. -/
structure Policy where
  /-- Where the element graph is found. -/
  graphPath : Option String
  /-- Patterns of names that are left out of the graph. -/
  exclude : List String
  layers : List Layer
  /-- For each layer the layers on which it may depend. -/
  dependencies : Dictionary (List String)
  constraints : List Constraint

namespace Policy

/-- The policy without layers and constraints. -/
def empty : Policy := ⟨none, [], [], .empty, []⟩

/-- Whether there are no layers. -/
def isEmpty (p : Policy) : Bool := p.layers.isEmpty

/-- The layers on which a layer may depend beside itself. -/
def allowed (p : Policy) (layer : String) : List String := (p.dependencies.get? layer).getD []

/-! ### Reading -/

/-- The fields about the graph. -/
def graphFields : List (Field Policy) :=
  [.optional "path" (Datum.present Datum.text) fun graphPath p => { p with graphPath },
   .optional "exclude" (Datum.items Datum.text) fun exclude p => { p with exclude }]

/-- The fields of a layer, in order. -/
def layerFields : List (Field Layer) :=
  [.needed "name" Datum.text fun name l => { l with name },
   .needed "packages" (Datum.items Datum.text) fun packages l => { l with packages }]

/-- The fields of a constraint, in order. -/
def constraintFields : List (Field Constraint) :=
  [.needed "type" Datum.text fun kind c => { c with kind },
   .optional "pattern" Datum.text fun pattern c => { c with pattern },
   .optional "in_layers" (Datum.items Datum.text) fun inLayers c => { c with inLayers },
   .optional "priority" (Datum.present (Datum.wordOrEmpty Priority.keyed))
     fun priority c => { c with priority },
   .optional "message" Datum.text fun message c => { c with message },
   .optional "target_matches" Datum.text fun targetMatches c => { c with targetMatches },
   .optional "name_must_match" Datum.text fun nameMustMatch c => { c with nameMustMatch },
   .optional "name_must_not_match" Datum.text
     fun nameMustNotMatch c => { c with nameMustNotMatch }]

/-- The fields of a settings document that make a policy, in order. -/
def fields : List (Field Policy) :=
  [Datum.nested "graph" .ignored graphFields,
   .optional "layers" (Datum.items (Datum.record .ignored layerFields ⟨"", []⟩))
     fun layers p => { p with layers },
   .optional "dependencies" (Datum.map (Datum.items Datum.text))
     fun dependencies p => { p with dependencies := .ofList dependencies },
   .optional "constraints" (Datum.items (Datum.record .ignored constraintFields .blank))
     fun constraints p => { p with constraints }]

/-- The policy in a settings document. -/
def parse (text : String) : Decoded Policy :=
  Toml.decode (Datum.record .ignored fields empty) text

/-- How the wording begins if a file with a policy cannot be read. -/
def reading : String := "failed to read"

/-- The wording of what is wrong with a policy document. -/
def complaintMessage (c : Complaint) : String := c.describe "invalid config"

end Policy

end Strata
