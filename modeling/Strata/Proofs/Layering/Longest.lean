import Mathlib.Data.List.Basic
import Mathlib.Tactic.Lemma
import Strata.Layering

/-!
The layer of a name, said without the search for it. The search goes over the packages of all
layers, the longest first, and ends at the first one that covers the name. Main statement:
`layerOf?_ofLayers`, it finds the first layer that lists the longest package covering the name.

* `eq_of_covers`: packages that cover one name are told apart by their lengths, so only one of them
  is the longest (`IsLongest`);
* `filter_packages_ofLayers`: a package that several layers list stays in the order of these when
  the packages are sorted.
-/

namespace Strata

/-! ### Packages that cover a name -/

/-- A package covers its own name and the names that go on with a dot. -/
def Covers (package name : String) : Prop :=
  name = package ∨ ∃ rest, name = package ++ "." ++ rest

lemma covers_eq_true_iff {package name : String} :
    covers package name = true ↔ Covers package name := by
  rw [covers_iff, Covers]
  refine or_congr_right ⟨?_, ?_⟩
  · rintro ⟨rest, hrest⟩
    refine ⟨String.ofList rest, String.toList_inj.mp ?_⟩
    simpa using hrest
  · rintro ⟨rest, rfl⟩
    exact ⟨rest.toList, by simp⟩

lemma Covers.isPrefix {package name : String} (h : Covers package name) :
    package.toList <+: name.toList := by
  obtain rfl | ⟨rest, rfl⟩ := h
  · exact List.prefix_rfl
  · exact ⟨'.' :: rest.toList, by simp⟩

/-- A beginning of a text that has as many bytes is the whole text. -/
lemma eq_of_prefix_of_utf8ByteSize_eq {start s : String} (h : start.toList <+: s.toList)
    (hsize : start.utf8ByteSize = s.utf8ByteSize) : start = s := by
  obtain ⟨rest, hrest⟩ := h
  have happend : start ++ String.ofList rest = s := by
    rw [← String.toList_inj, String.toList_append, String.toList_ofList, hrest]
  have hempty : (String.ofList rest).utf8ByteSize = 0 := by
    have hbytes := congrArg String.utf8ByteSize happend
    rw [String.utf8ByteSize_append] at hbytes
    omega
  rw [← happend, String.utf8ByteSize_eq_zero_iff.mp hempty, String.append_empty]

/-- Packages that cover a name are told apart by their lengths. -/
lemma eq_of_covers {package package' name : String} (h : Covers package name)
    (h' : Covers package' name) (hsize : package.utf8ByteSize = package'.utf8ByteSize) :
    package = package' := by
  rcases List.prefix_or_prefix_of_prefix h.isPrefix h'.isPrefix with hp | hp
  · exact eq_of_prefix_of_utf8ByteSize_eq hp hsize
  · exact (eq_of_prefix_of_utf8ByteSize_eq hp hsize.symm).symm

namespace Layering

variable {ls : List Layer} {name package package' layer : String}

lemma mem_listed {entry : String × String} :
    entry ∈ listed ls ↔ ∃ l ∈ ls, entry.1 ∈ l.packages ∧ l.name = entry.2 := by
  obtain ⟨package, layer⟩ := entry
  simp [listed]

/-- Some layer lists a package. -/
def Lists (ls : List Layer) (package : String) : Prop := ∃ l ∈ ls, package ∈ l.packages

lemma lists_iff : Lists ls package ↔ ∃ layer, (package, layer) ∈ listed ls := by
  simp only [Lists, mem_listed]
  constructor
  · rintro ⟨l, hl, hpackage⟩
    exact ⟨l.name, l, hl, hpackage, rfl⟩
  · rintro ⟨_, l, hl, hpackage, -⟩
    exact ⟨l, hl, hpackage⟩

lemma mem_packages_ofLayers {entry : String × String} :
    entry ∈ (ofLayers ls).packages ↔ entry ∈ listed ls := List.mem_mergeSort

lemma layerOf?_ofLayers_eq_none_iff :
    (ofLayers ls).layerOf? name = none ↔ ∀ package, Lists ls package → ¬ Covers package name := by
  simp only [layerOf?, Option.map_eq_none_iff, List.find?_eq_none, mem_packages_ofLayers,
    covers_eq_true_iff, lists_iff]
  constructor
  · rintro h package ⟨layer, hmem⟩
    exact h (package, layer) hmem
  · exact fun h entry hmem => h entry.1 ⟨entry.2, hmem⟩

/-! ### The longest package -/

/-- A package is listed, covers a name, and no listed package that covers the name has more
bytes. -/
structure IsLongest (ls : List Layer) (name package : String) : Prop where
  lists : Lists ls package
  covers : Covers package name
  size_le : ∀ other, Lists ls other → Covers other name →
    other.utf8ByteSize ≤ package.utf8ByteSize

lemma IsLongest.unique (h : IsLongest ls name package) (h' : IsLongest ls name package') :
    package = package' := by
  refine eq_of_covers h.covers h'.covers (Nat.le_antisymm ?_ ?_)
  · exact h'.size_le package h.lists h.covers
  · exact h.size_le package' h'.lists h'.covers

lemma atLeastAsLong_trans (p q r : String × String) (hpq : atLeastAsLong p q = true)
    (hqr : atLeastAsLong q r = true) : atLeastAsLong p r = true := by
  rw [atLeastAsLong, decide_eq_true_iff] at hpq hqr ⊢
  exact Nat.le_trans hqr hpq

lemma atLeastAsLong_total (p q : String × String) :
    (atLeastAsLong p q || atLeastAsLong q p) = true := by
  rw [Bool.or_eq_true, atLeastAsLong, atLeastAsLong, decide_eq_true_iff, decide_eq_true_iff]
  exact Nat.le_total _ _

/-- Sorting keeps the order of the layers that list one package. -/
lemma filter_packages_ofLayers (ls : List Layer) (package : String) :
    (ofLayers ls).packages.filter (·.1 == package) = (listed ls).filter (·.1 == package) := by
  have hsorted : ((listed ls).filter (·.1 == package)).Pairwise
      fun p q => atLeastAsLong p q = true := by
    refine List.pairwise_of_forall_mem_list fun p hp q hq => ?_
    obtain rfl := eq_of_beq (List.mem_filter.mp hp).2
    rw [atLeastAsLong, eq_of_beq (List.mem_filter.mp hq).2]
    exact decide_eq_true (Nat.le_refl _)
  have hkept := (List.sublist_mergeSort atLeastAsLong_trans atLeastAsLong_total hsorted
    List.filter_sublist).filter (·.1 == package)
  rw [List.filter_filter, List.filter_congr fun _ _ => Bool.and_self _] at hkept
  exact (hkept.eq_of_length ((List.mergeSort_perm _ _).filter _).length_eq.symm).symm

/-- The search ends at the longest package, in the entry of the first layer that lists it. -/
lemma exists_isLongest_of_layerOf?_ofLayers (h : (ofLayers ls).layerOf? name = some layer) :
    ∃ package, IsLongest ls name package ∧
      (listed ls).find? (·.1 == package) = some (package, layer) := by
  obtain ⟨⟨package, _⟩, hfind, rfl⟩ := Option.map_eq_some_iff.mp h
  obtain ⟨hcovers, before, after, hsplit, hbefore⟩ := List.find?_eq_some_iff_append.mp hfind
  have hnot : ∀ entry ∈ before, ¬ Covers entry.1 name := by
    intro entry hentry hcovered
    have hfalse := hbefore entry hentry
    rw [covers_eq_true_iff.mpr hcovered] at hfalse
    cases hfalse
  have hsorted : (ofLayers ls).packages.Pairwise fun p q => atLeastAsLong p q = true :=
    List.pairwise_mergeSort atLeastAsLong_trans atLeastAsLong_total _
  rw [hsplit, List.pairwise_append, List.pairwise_cons] at hsorted
  have hlists : Lists ls package :=
    lists_iff.mpr ⟨_, mem_packages_ofLayers.mp (List.mem_of_find?_eq_some hfind)⟩
  refine ⟨package, ⟨hlists, covers_eq_true_iff.mp hcovers, fun other hother hcovered => ?_⟩, ?_⟩
  · obtain ⟨_, hmem⟩ := lists_iff.mp hother
    rw [← mem_packages_ofLayers, hsplit, List.mem_append, List.mem_cons] at hmem
    rcases hmem with hmem | heq | hmem
    · exact absurd hcovered (hnot _ hmem)
    · cases heq
      exact Nat.le_refl _
    · exact of_decide_eq_true (hsorted.2.1.1 _ hmem)
  · rw [← List.head?_filter, ← filter_packages_ofLayers, List.head?_filter,
      List.find?_eq_some_iff_append]
    refine ⟨beq_self_eq_true package, before, after, hsplit, fun entry hentry => ?_⟩
    rw [Bool.not_eq_true', beq_eq_false_iff_ne]
    rintro rfl
    exact hnot entry hentry (covers_eq_true_iff.mp hcovers)

/-! ### The first layer that lists a package -/

/-- The layer at an index lists a package, and none before it does. -/
def IsFirstWith (ls : List Layer) (package : String) (i : Fin ls.length) : Prop :=
  package ∈ ls[i].packages ∧ ∀ j < i, package ∉ ls[j].packages

lemma find?_listed (ls : List Layer) (package : String) :
    (listed ls).find? (·.1 == package) =
      (ls.find? fun l => package ∈ l.packages).map fun l => (package, l.name) := by
  induction ls with
  | nil => rfl
  | cons l ls ih =>
      have hown : (l.packages.map fun p => (p, l.name)).find? (·.1 == package) =
          if package ∈ l.packages then some (package, l.name) else none := by
        rw [List.find?_map, Function.comp_def]
        cases hfind : l.packages.find? fun p => p == package with
        | none =>
            rw [List.find?_eq_none] at hfind
            rw [if_neg fun hmem => hfind package hmem (beq_self_eq_true package)]
            rfl
        | some p =>
            have heq := List.find?_some hfind
            obtain rfl := eq_of_beq heq
            rw [if_pos (List.mem_of_find?_eq_some hfind)]
            rfl
      rw [listed, List.flatMap_cons, List.find?_append, hown, ← listed, ih, List.find?_cons]
      by_cases h : package ∈ l.packages <;> simp [h]

lemma map_name_find?_eq_some_iff :
    (ls.find? fun l => package ∈ l.packages).map Layer.name = some layer ↔
      ∃ i, IsFirstWith ls package i ∧ ls[i].name = layer := by
  simp only [Option.map_eq_some_iff, List.find?_eq_some_iff_getElem, decide_eq_true_eq,
    Bool.not_eq_true', decide_eq_false_iff_not]
  constructor
  · rintro ⟨l, ⟨hl, i, hi, rfl, hbefore⟩, rfl⟩
    exact ⟨⟨i, hi⟩, ⟨hl, fun j hj => hbefore j hj⟩, rfl⟩
  · rintro ⟨i, ⟨hmem, hbefore⟩, rfl⟩
    exact ⟨ls[i], ⟨hmem, i, i.isLt, rfl, fun j hj => hbefore ⟨j, by omega⟩ hj⟩, rfl⟩

/-- The layer of a name is the first one that lists the longest package that covers the name. -/
lemma layerOf?_ofLayers_eq_some_iff :
    (ofLayers ls).layerOf? name = some layer ↔
      ∃ package, IsLongest ls name package ∧
        ∃ i, IsFirstWith ls package i ∧ ls[i].name = layer := by
  have hfirst : ∀ {package layer}, (listed ls).find? (·.1 == package) = some (package, layer) ↔
      ∃ i, IsFirstWith ls package i ∧ ls[i].name = layer := by
    intro package layer
    rw [find?_listed, ← map_name_find?_eq_some_iff]
    simp
  simp only [← hfirst]
  constructor
  · exact exists_isLongest_of_layerOf?_ofLayers
  · rintro ⟨package, hlongest, hfind⟩
    cases h : (ofLayers ls).layerOf? name with
    | none =>
        rw [layerOf?_ofLayers_eq_none_iff] at h
        exact absurd hlongest.covers (h package hlongest.lists)
    | some layer' =>
        obtain ⟨package', hlongest', hfind'⟩ := exists_isLongest_of_layerOf?_ofLayers h
        rw [hlongest.unique hlongest', hfind'] at hfind
        cases hfind
        rfl

/-- A name that some listed package covers has a longest package. -/
lemma exists_isLongest (hlists : Lists ls package) (hcovers : Covers package name) :
    ∃ longest, IsLongest ls name longest := by
  cases h : (ofLayers ls).layerOf? name with
  | none => exact absurd hcovers (layerOf?_ofLayers_eq_none_iff.mp h package hlists)
  | some layer =>
      obtain ⟨longest, hlongest, -⟩ := exists_isLongest_of_layerOf?_ofLayers h
      exact ⟨longest, hlongest⟩

/-- **The layer of a name**: none iff no layer lists a package that covers the name. Else one of
these packages is the longest, and the layer is the first that lists it. -/
theorem layerOf?_ofLayers (ls : List Layer) (name : String) :
    ((ofLayers ls).layerOf? name = none ↔ ∀ package, Lists ls package → ¬ Covers package name) ∧
      ((∃ package, Lists ls package ∧ Covers package name) ↔
        ∃! package, IsLongest ls name package) ∧
      ∀ layer,
        ((ofLayers ls).layerOf? name = some layer ↔ ∃ package, IsLongest ls name package ∧
          ∃ i, IsFirstWith ls package i ∧ ls[i].name = layer) ∧
        ((ofLayers ls).isIn name layer = true ↔ (ofLayers ls).layerOf? name = some layer) := by
  refine ⟨layerOf?_ofLayers_eq_none_iff, ⟨?_, ?_⟩, fun layer =>
    ⟨layerOf?_ofLayers_eq_some_iff, beq_iff_eq⟩⟩
  · rintro ⟨package, hlists, hcovers⟩
    obtain ⟨longest, hlongest⟩ := exists_isLongest hlists hcovers
    exact ⟨longest, hlongest, fun _ h => h.unique hlongest⟩
  · rintro ⟨package, hlongest, -⟩
    exact ⟨package, hlongest.lists, hlongest.covers⟩

/-- Two layers list the longest package, and the one that lists a shorter one comes first. -/
example : (ofLayers [⟨"shop", ["a"]⟩, ⟨"store", ["a.b", "a.b."]⟩, ⟨"app", ["a.b"]⟩]).layerOf?
    "a.b.Cart" = some "store" := by cbv

end Layering

end Strata
