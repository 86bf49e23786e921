import Strata.Graph
import Strata.Json.Reader

/-!
Graph documents: graphs as JSON.

`Graph.toJson` writes a graph, `Graph.parse` reads one. Kinds that are missing in a document have
their usual values, and a missing origin kind is taken from the elements. The order of fields is
fixed; fields without a value are not written.
-/

namespace Strata

/-! ### Writing -/

/-- An element as JSON. -/
def Element.toJson (e : Element) : Json :=
  .object [("name", .string e.name), ("kind", .string e.kind.key)]

/-- A dependency as JSON. -/
def Dependency.toJson (d : Dependency) : Json :=
  .object <|
    [("origin", .string d.origin), ("target", .string d.target), ("kind", .string d.kind.key)]
      ++ (d.sourceFile.map fun f => ("source_file", Json.string f)).toList
      ++ (d.line.map fun l => ("line", Json.natural l.toNat)).toList
      ++ (d.originKind.map fun k => ("origin_kind", Json.string k.key)).toList

/-- A graph as JSON. -/
def Graph.toJson (g : Graph) : Json :=
  .object [("elements", .array (g.elements.map Element.toJson)),
    ("dependencies", .array (g.dependencies.map Dependency.toJson))]

/-- The document of a graph, without blanks. -/
def Graph.render (g : Graph) : String := g.toJson.compact

/-! ### Reading -/

namespace Element

/-- The fields of an element, in order. -/
def fields : List (Field Element) :=
  [.needed "name" Datum.text fun name e => { e with name },
   .optional "kind" (Datum.wordOrNull ElementKind.keyed) fun kind e => { e with kind }]

/-- An element from its data. -/
def ofDatum : Datum → Decoded Element := Datum.record .refused fields ⟨"", default⟩

end Element

namespace Dependency

/-- The number of a line: any of 64 bits. -/
def lineNumber (d : Datum) : Decoded UInt64 := do
  let n ← d.naturalBelow UInt64.size
  pure (.ofNat n)

/-- The fields of a dependency, in order. -/
def fields : List (Field Dependency) :=
  [.needed "origin" Datum.text fun origin d => { d with origin },
   .needed "target" Datum.text fun target d => { d with target },
   .optional "kind" (Datum.wordOrNull DependencyKind.keyed) fun kind d => { d with kind },
   .optional "source_file" (Datum.orNull Datum.text) fun sourceFile d => { d with sourceFile },
   .optional "line" (Datum.orNull lineNumber) fun line d => { d with line },
   .optional "origin_kind" (Datum.orNull (Datum.wordOrNull ElementKind.keyed))
     fun originKind d => { d with originKind }]

/-- A dependency from its data. -/
def ofDatum : Datum → Decoded Dependency :=
  Datum.record .refused fields ⟨"", "", default, none, none, none⟩

end Dependency

namespace Graph

/-- The fields of a graph, in order. -/
def fields : List (Field Graph) :=
  [.optional "elements" (Datum.items Element.ofDatum) fun elements g => { g with elements },
   .optional "dependencies" (Datum.items Dependency.ofDatum)
     fun dependencies g => { g with dependencies }]

/-- A graph from its data, origin kinds as they stand there. -/
def ofDatum : Datum → Decoded Graph := Datum.record .refused fields empty

/-- The graph that a document describes. -/
def parse (text : String) : Decoded Graph := do
  let g ← (Document.ofJson text).decode ofDatum
  pure g.resolveOriginKinds

/-- How the wording begins if a file with a graph cannot be read. -/
def reading : String := "failed to read"

/-- The wording of what is wrong with a graph document. -/
def complaintMessage (c : Complaint) : String := c.describe "invalid element graph"

end Graph

end Strata
