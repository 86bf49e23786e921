import Mathlib.Tactic.Lemma
import Strata.Text

/-!
Sorted lines. The byte order is linear, so what `sortLines` makes of some lines depends on which
lines there are and how often, and not on the order in which they came.

* `sortLines_eq_of_perm`: the same lines in another order are sorted alike;
* `sortLines_filter`: leaving lines out before sorting or after it is the same.
-/

namespace Strata.Text

/-! ### The byte order is linear -/

lemma atMost_iff {a b : String} : atMost a b = true ↔ bytes a ≤ bytes b := decide_eq_true_iff

lemma atMost_trans (a b c : String) (hab : atMost a b = true) (hbc : atMost b c = true) :
    atMost a c = true := by
  rw [atMost_iff] at hab hbc ⊢
  exact List.le_trans hab hbc

lemma atMost_total (a b : String) : (atMost a b || atMost b a) = true := by
  rw [Bool.or_eq_true, atMost_iff, atMost_iff]
  exact List.le_total (bytes a) (bytes b)

lemma atMost_antisymm {a b : String} (hab : atMost a b = true) (hba : atMost b a = true) :
    a = b := by
  rw [atMost_iff] at hab hba
  exact bytes_inj.mp (List.le_antisymm hab hba)

/-! ### Sorting -/

lemma sortLines_pairwise (lines : List String) :
    (sortLines lines).Pairwise fun a b => atMost a b = true :=
  List.pairwise_mergeSort atMost_trans atMost_total lines

/-- There is one way to sort some lines: the order tells all lines apart. -/
lemma eq_of_pairwise_atMost {as bs : List String} (ha : as.Pairwise fun a b => atMost a b = true)
    (hb : bs.Pairwise fun a b => atMost a b = true) (h : as.Perm bs) : as = bs :=
  h.eq_of_pairwise (fun _ _ _ _ hab hba => atMost_antisymm hab hba) ha hb

lemma sortLines_eq_of_perm {as bs : List String} (h : as.Perm bs) :
    sortLines as = sortLines bs := by
  refine eq_of_pairwise_atMost (sortLines_pairwise as) (sortLines_pairwise bs) ?_
  exact (sortLines_perm as).trans (h.trans (sortLines_perm bs).symm)

/-- A sorted list stays sorted when lines are left out, so it does not matter when that is done. -/
lemma sortLines_filter (keep : String → Bool) (lines : List String) :
    sortLines (lines.filter keep) = (sortLines lines).filter keep := by
  refine eq_of_pairwise_atMost (sortLines_pairwise _) ((sortLines_pairwise lines).filter keep) ?_
  exact (sortLines_perm _).trans ((sortLines_perm lines).filter keep).symm

end Strata.Text
