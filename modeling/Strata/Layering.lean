import Strata.Text

/-!
Layers: which layer an element belongs to.

A layer lists packages, and the element of a name belongs to the layer with the longest package that
covers the name. Main statement: `covers_iff`, a package covers its own name and the names that
begin with it and a dot.
-/

namespace Strata

/-- A named layer with its packages. -/
structure Layer where
  name : String
  packages : List String
  deriving DecidableEq

/-- Whether a name is a package or lies in it, at any depth. -/
def covers (package name : String) : Bool :=
  (Text.after? package.toList name.toList).any fun rest => rest.isEmpty || rest.head? == some '.'

theorem covers_iff {package name : String} :
    covers package name = true ↔
      name = package ∨ ∃ rest, name.toList = package.toList ++ '.' :: rest := by
  rw [← String.toList_inj]
  simp only [covers, Option.any_eq_true, Text.after?_eq_some_iff, Bool.or_eq_true,
    List.isEmpty_iff, beq_iff_eq]
  constructor
  · rintro ⟨rest, h, rfl | hdot⟩
    · exact .inl (by simpa using h)
    · obtain ⟨tail, rfl⟩ := List.head?_eq_some_iff.1 hdot
      exact .inr ⟨tail, h⟩
  · rintro (h | ⟨tail, h⟩)
    · exact ⟨[], by simp [h], .inl rfl⟩
    · exact ⟨'.' :: tail, h, .inr rfl⟩

/-- The layers of a code base and their packages. -/
structure Layering where
  /-- The names of the layers, as they were defined. -/
  layers : List String
  /-- The packages with the names of their layers, the longest package first. -/
  packages : List (String × String)

namespace Layering

/-- Whether the first of two packages is at least as long as the second, in bytes. -/
def atLeastAsLong (p q : String × String) : Bool :=
  decide (q.1.utf8ByteSize ≤ p.1.utf8ByteSize)

/-- The packages of layers with the names of the layers, as they were defined. -/
def listed (ls : List Layer) : List (String × String) :=
  ls.flatMap fun l => l.packages.map fun p => (p, l.name)

/-- The layering that layers define. Packages of one length stay in the order of definition. -/
def ofLayers (ls : List Layer) : Layering where
  layers := ls.map Layer.name
  packages := (listed ls).mergeSort atLeastAsLong

/-- The layer of the element of a name. -/
def layerOf? (l : Layering) (name : String) : Option String :=
  (l.packages.find? fun p => covers p.1 name).map Prod.snd

/-- Whether the element of a name belongs to a layer. -/
def isIn (l : Layering) (name layer : String) : Bool := l.layerOf? name == some layer

/-- Whether the element of a name belongs to one of some layers. If none are given, it always
counts as selected. -/
def selects (l : Layering) (layers : List String) (name : String) : Bool :=
  layers.isEmpty || (l.layerOf? name).any layers.contains

theorem selects_iff {l : Layering} {layers : List String} {name : String} :
    l.selects layers name = true ↔ layers = [] ∨ ∃ layer ∈ l.layerOf? name, layer ∈ layers := by
  rw [selects, Bool.or_eq_true, List.isEmpty_iff, Option.any_eq_true]
  simp [Option.mem_def]

end Layering

end Strata
