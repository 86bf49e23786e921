import Mathlib.Data.List.Forall2
import Strata.Proofs.Layering.Longest

/-!
Layers in another order. The element of a name belongs to a layer that lists the longest package
covering the name. So if no package is listed by two layers, it does not matter in which order
layers and packages come (`layerOf?_ofLayers_eq`).
-/

namespace Strata.Layering

variable {ls : List Layer} {name layer : String}

/-! ### The same packages -/

/-- No package is listed by two layers of different names. -/
def SharesNoPackage (ls : List Layer) : Prop :=
  ∀ l ∈ ls, ∀ l' ∈ ls, ∀ package ∈ l.packages, package ∈ l'.packages → l.name = l'.name

instance (ls : List Layer) : Decidable (SharesNoPackage ls) :=
  inferInstanceAs (Decidable (∀ l ∈ ls, ∀ l' ∈ ls, ∀ package ∈ l.packages, _))

/-- Which package is the longest only depends on which are listed. -/
lemma IsLongest.of_lists_eq {ls' : List Layer} {package : String} (hlists : Lists ls' = Lists ls)
    (h : IsLongest ls' name package) : IsLongest ls name package where
  lists := hlists ▸ h.lists
  covers := h.covers
  size_le other hother := h.size_le other (hlists ▸ hother)

/-- If no package is listed by two layers, it only matters what the layers list. -/
lemma layerOf?_ofLayers_eq {ls' : List Layer} (hapart : SharesNoPackage ls)
    (hlisted : ∀ entry, entry ∈ listed ls' ↔ entry ∈ listed ls) (name : String) :
    (ofLayers ls').layerOf? name = (ofLayers ls).layerOf? name := by
  have hlists : Lists ls' = Lists ls := by
    funext package
    simp only [lists_iff, hlisted]
  have hnone : (ofLayers ls').layerOf? name = none ↔ (ofLayers ls).layerOf? name = none := by
    rw [layerOf?_ofLayers_eq_none_iff, layerOf?_ofLayers_eq_none_iff, hlists]
  cases h : (ofLayers ls).layerOf? name with
  | none => exact hnone.mpr h
  | some layer =>
      cases h' : (ofLayers ls').layerOf? name with
      | none =>
          rw [hnone.mp h'] at h
          cases h
      | some layer' =>
          obtain ⟨package, hlongest, hfind⟩ := exists_isLongest_of_layerOf?_ofLayers h
          obtain ⟨package', hlongest', hfind'⟩ := exists_isLongest_of_layerOf?_ofLayers h'
          obtain rfl : package = package' := hlongest.unique (hlongest'.of_lists_eq hlists)
          obtain ⟨l, hl, hpackage, rfl⟩ := mem_listed.mp (List.mem_of_find?_eq_some hfind)
          obtain ⟨l', hl', hpackage', rfl⟩ :=
            mem_listed.mp ((hlisted _).mp (List.mem_of_find?_eq_some hfind'))
          rw [hapart l hl l' hl' package hpackage hpackage']

/-! ### Layers and packages in another order -/

/-- Layers come in another order, and the packages of each do. -/
def Rearranged (ls ls' : List Layer) : Prop :=
  ∃ mid, ls.Perm mid ∧
    List.Forall₂ (fun l l' => l.name = l'.name ∧ l.packages.Perm l'.packages) mid ls'

lemma Rearranged.map_name_perm {ls' : List Layer} (h : Rearranged ls ls') :
    (ls.map Layer.name).Perm (ls'.map Layer.name) := by
  obtain ⟨mid, hperm, hsame⟩ := h
  have hnames : mid.map Layer.name = ls'.map Layer.name := by
    rw [← List.forall₂_eq_eq_eq, List.forall₂_map_left_iff, List.forall₂_map_right_iff]
    exact hsame.imp fun _ _ h => h.1
  rw [← hnames]
  exact hperm.map _

lemma Rearranged.mem_listed_iff {ls' : List Layer} (h : Rearranged ls ls')
    (entry : String × String) : entry ∈ listed ls' ↔ entry ∈ listed ls := by
  obtain ⟨mid, hperm, hsame⟩ := h
  have hmid : entry ∈ listed ls ↔ entry ∈ listed mid := by
    simp only [mem_listed, hperm.mem_iff]
  rw [hmid]
  clear hperm hmid
  induction hsame with
  | nil => rfl
  | cons hl _ ih =>
      simp only [mem_listed, List.exists_mem_cons_iff] at ih ⊢
      refine or_congr ?_ ih
      rw [hl.1, hl.2.mem_iff]

end Strata.Layering
