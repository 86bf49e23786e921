import Mathlib
import Strata.Graph.Document
import Strata.Proofs.Graph.Exclusion
import Strata.Proofs.Json.Reading

/-!
Graphs that are written and read again. A graph document may leave origin kinds open, and reading
takes them from the elements, the last one of a name if there are several. So reading gives back
what was written only if nothing is left to be taken from the elements (`Graph.IsResolved`). That
holds of graphs that were read, and leaving elements out keeps it.

Main statement: `parse_render`.
-/

namespace Strata

/-! ### Reading what was written -/

lemma wordOrNull_elementKind (k : ElementKind) :
    Datum.wordOrNull ElementKind.keyed (.string k.key) = .ok k := by
  cases k <;> rfl

lemma wordOrNull_dependencyKind (k : DependencyKind) :
    Datum.wordOrNull DependencyKind.keyed (.string k.key) = .ok k := by
  cases k <;> rfl

/-- All numbers of 64 bits are numbers of lines. -/
lemma lineNumber_toNat (l : UInt64) : Dependency.lineNumber (.natural l.toNat) = .ok l := by
  have hlt : l.toNat < UInt64.size := l.toNat_lt
  have hnumber : Datum.naturalBelow UInt64.size (.natural l.toNat) = .ok l.toNat := if_pos hlt
  rw [Dependency.lineNumber, hnumber]
  exact congrArg Except.ok UInt64.ofNat_toNat

lemma Element.ofDatum_toDatum (e : Element) : ofDatum e.toJson.toDatum = .ok e := by
  simp [ofDatum, toJson, Json.toDatum, Json.toEntries, Datum.record, Datum.ofEntries,
    Datum.readEntries, fields, Field.needed, Field.optional, Datum.text, wordOrNull_elementKind,
    bind, Except.bind, pure, Except.pure]

/-- Fields without a value are not written and keep what they hold without one. -/
lemma Dependency.ofDatum_toDatum (d : Dependency) : ofDatum d.toJson.toDatum = .ok d := by
  obtain ⟨origin, target, kind, file, line, originKind⟩ := d
  cases file <;> cases line <;> cases originKind <;>
    simp [ofDatum, toJson, Json.toDatum, Json.toEntries, Datum.record, Datum.ofEntries,
      Datum.readEntries, fields, Field.needed, Field.optional, Datum.text, Datum.orNull,
      wordOrNull_dependencyKind, wordOrNull_elementKind, lineNumber_toNat, bind, Except.bind, pure,
      Except.pure, Functor.map, Except.map]

/-- Items are read back if each single one is. -/
lemma Datum.items_map {α : Type} {decode : Datum → Decoded α} {write : α → Json}
    (h : ∀ a, decode (write a).toDatum = .ok a) (as : List α) :
    items decode (.list (Json.toData (as.map write)) true) = .ok as := by
  have hitems : ((as.map write).map Json.toDatum).mapM decode = .ok as := by
    rw [mapM_eq_ok_iff, List.forall₂_map_left_iff, List.forall₂_map_left_iff]
    exact List.forall₂_same.mpr fun a _ => h a
  rw [Json.toData_eq_map, items, hitems]
  rfl

namespace Graph

lemma ofDatum_toDatum (g : Graph) : ofDatum g.toJson.toDatum = .ok g := by
  have helements := Datum.items_map Element.ofDatum_toDatum g.elements
  have hdependencies := Datum.items_map Dependency.ofDatum_toDatum g.dependencies
  simp [ofDatum, toJson, Json.toDatum, Json.toEntries, Datum.record, Datum.ofEntries,
    Datum.readEntries, fields, Field.optional, helements, hdependencies, bind, Except.bind, pure,
    Except.pure]

lemma parse_render_eq (g : Graph) : parse g.render = .ok g.resolveOriginKinds := by
  have hdecode : (Document.ofJson g.toJson.compact).decode ofDatum = .ok g := by
    rw [Json.ofJson_compact, Document.decode, ofDatum_toDatum]
    rfl
  rw [parse, render, hdecode]
  rfl

/-! ### Origin kinds -/

/-- Of several elements of a name the last one counts. -/
lemma kindOf?_eq (g : Graph) (name : String) :
    g.kindOf? name = ((g.elements.filter (·.name == name)).getLast?).map Element.kind := by
  rw [kindOf?, List.getLast?_filter]

lemma kindOf?_eq_none_iff {g : Graph} {name : String} :
    g.kindOf? name = none ↔ ∀ e ∈ g.elements, e.name ≠ name := by
  simp [kindOf?]

/-- Nothing more can be taken from the elements: an origin without a kind is no element. -/
def IsResolved (g : Graph) : Prop :=
  ∀ d ∈ g.dependencies, d.originKind = none → ∀ e ∈ g.elements, e.name ≠ d.origin

lemma isResolved_resolveOriginKinds (g : Graph) : g.resolveOriginKinds.IsResolved := by
  intro d hd hnone
  obtain ⟨d', _, rfl⟩ := List.mem_map.mp hd
  exact kindOf?_eq_none_iff.mp (Option.or_eq_none_iff.mp hnone).2

lemma IsResolved.without {g : Graph} (h : g.IsResolved) (excluded : String → Bool) :
    (g.without excluded).IsResolved := by
  intro d hd hnone e he
  exact h d (List.mem_filter.mp hd).1 hnone e (List.mem_filter.mp he).1

lemma IsResolved.resolveOriginKinds_eq {g : Graph} (h : g.IsResolved) :
    g.resolveOriginKinds = g := by
  have hkeep : ∀ d ∈ g.dependencies,
      { d with originKind := d.originKind.or (g.kindOf? d.origin) } = d := by
    intro d hd
    cases hkind : d.originKind with
    | some k => rw [Option.some_or, ← hkind]
    | none => rw [kindOf?_eq_none_iff.mpr (h d hd hkind), Option.none_or, ← hkind]
  rw [resolveOriginKinds, List.map_congr_left hkeep, List.map_id']

lemma isResolved_of_parse {text : String} {g : Graph} (h : parse text = .ok g) : g.IsResolved := by
  obtain ⟨g', _, hg⟩ := bind_eq_ok_iff.mp h
  cases hg
  exact isResolved_resolveOriginKinds g'

/-- **Reading undoes writing**, up to origin kinds: those that are missing are taken from the last
element of the name, if there is one. A graph that has been read has nothing more to take, nor has
what is left of it when names are left out, so this is read back as it is. -/
theorem parse_render (g : Graph) :
    (∃ read, parse g.render = .ok read ∧ read.elements = g.elements ∧
      read.dependencies = g.dependencies.map fun d =>
        let named := g.elements.filter (·.name == d.origin)
        { d with originKind := d.originKind.or (named.getLast?.map Element.kind) }) ∧
      ∀ text patterns, parse text = .ok g → (∀ p ∈ patterns, Glob.IsPattern p) →
        ∃ rest, g.withoutMatching patterns = .ok rest ∧ parse rest.render = .ok rest := by
  constructor
  · refine ⟨g.resolveOriginKinds, parse_render_eq g, rfl, ?_⟩
    simp only [resolveOriginKinds, kindOf?_eq]
  · intro text patterns htext hpatterns
    refine ⟨_, withoutMatching_eq_ok_iff.mpr ⟨hpatterns, rfl⟩, ?_⟩
    have hrest := (isResolved_of_parse htext).without (Glob.anyHits patterns)
    rw [parse_render_eq, hrest.resolveOriginKinds_eq]

/-- The text of a graph, with records as lists of their fields. -/
def cartText : String :=
  "[[[\"Cart\",\"enum\"],[\"Cart\"],[\"gen.Row\"]]," ++
    "[[\"Cart\",\"gen.Row\"],[\"Cart\",\"\\u00e9\"]," ++
    "[\"Dump\",\"Cart\",\"extends\",null,18446744073709551615]]]"

/-- A graph with two elements of one name, with an origin that is no element, and with the last of
all lines. -/
def cart : Graph where
  elements := [⟨"Cart", .enumType⟩, ⟨"Cart", .classType⟩, ⟨"gen.Row", .classType⟩]
  dependencies :=
    [⟨"Cart", "gen.Row", .otherUse, none, none, some .classType⟩,
     ⟨"Cart", "é", .otherUse, none, none, some .classType⟩,
     ⟨"Dump", "Cart", .inheritance, none, some 18446744073709551615, none⟩]

theorem parse_render_cart :
    (∃ read, parse cart.render = .ok read ∧ read.elements = cart.elements ∧
      read.dependencies = cart.dependencies.map fun d =>
        let named := cart.elements.filter (·.name == d.origin)
        { d with originKind := d.originKind.or (named.getLast?.map Element.kind) }) ∧
      parse cartText = .ok cart ∧ (∀ p ∈ ["gen.*"], Glob.IsPattern p) ∧
        ∃ rest, cart.withoutMatching ["gen.*"] = .ok rest ∧ parse rest.render = .ok rest := by
  have htext : parse cartText = .ok cart := by cbv
  have hpatterns : ∀ p ∈ ["gen.*"], Glob.IsPattern p := by
    intro p hp
    obtain rfl := List.mem_singleton.mp hp
    exact ⟨[.char 'g', .char 'e', .char 'n', .char '.', .run], by cbv⟩
  have h := parse_render cart
  exact ⟨h.1, htext, hpatterns, h.2 cartText ["gen.*"] htext hpatterns⟩

end Graph

end Strata
