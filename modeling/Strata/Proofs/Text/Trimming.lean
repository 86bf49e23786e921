import Mathlib.Data.List.DropRight
import Mathlib.Tactic.Lemma
import Strata.Text
import Strata.Text.Blank

/-!
Trimming and cutting into pieces. A trimmed text has no blank at either end, and a text is its
trimmed text with blanks around it (`trimChars_append`, `exists_eq_append_trimChars`). The pieces
between separators hold no separator, and joining undoes cutting (`pieces_join`, `join_pieces`).
-/

namespace Strata.Text

/-! ### Trimming -/

/-- A text of blanks only. -/
def IsBlankOnly (s : List Char) : Prop := ∀ c ∈ s, isBlank c = true

lemma IsBlankOnly.append {s t : List Char} (hs : IsBlankOnly s) (ht : IsBlankOnly t) :
    IsBlankOnly (s ++ t) := fun c hc => (List.mem_append.mp hc).elim (hs c) (ht c)

/-- No blank at either end. -/
structure IsTrimmed (s : List Char) : Prop where
  head : ∀ c ∈ s.head?, isBlank c = false
  getLast : ∀ c ∈ s.getLast?, isBlank c = false

lemma trimChars_eq (s : List Char) : trimChars s = (s.dropWhile isBlank).rdropWhile isBlank := rfl

lemma trimChars_of_isBlankOnly {s : List Char} (h : IsBlankOnly s) : trimChars s = [] := by
  rw [trimChars_eq, List.dropWhile_eq_nil_iff.mpr h, List.rdropWhile_nil]

lemma isBlank_of_mem_head?_dropWhile {s : List Char} {c : Char}
    (h : c ∈ (s.dropWhile isBlank).head?) : isBlank c = false := by
  have hnot := List.head?_dropWhile_not isBlank s
  rwa [h] at hnot

/-- Blanks before anything else are dropped, and nothing else. -/
lemma dropWhile_isBlank_append {before s : List Char} (hbefore : IsBlankOnly before)
    (hs : ∀ c ∈ s.head?, isBlank c = false) : (before ++ s).dropWhile isBlank = s := by
  rw [List.dropWhile_append_of_pos hbefore]
  cases s with
  | nil => rfl
  | cons c s => simp [hs c rfl]

/-- Blanks around a trimmed text are taken off, and nothing else. -/
lemma trimChars_append {s before after : List Char} (h : IsTrimmed s)
    (hbefore : IsBlankOnly before) (hafter : IsBlankOnly after) :
    trimChars (before ++ (s ++ after)) = s := by
  have hback : (after.reverse ++ s.reverse).dropWhile isBlank = s.reverse := by
    refine dropWhile_isBlank_append (fun c hc => hafter c (List.mem_reverse.mp hc)) fun c hc => ?_
    rw [List.head?_reverse] at hc
    exact h.getLast c hc
  cases s with
  | nil =>
      exact trimChars_of_isBlankOnly (hbefore.append hafter)
  | cons c s =>
      have hfront : (before ++ (c :: s ++ after)).dropWhile isBlank = c :: s ++ after :=
        dropWhile_isBlank_append hbefore h.head
      rw [trimChars, hfront, List.reverse_append, hback, List.reverse_reverse]

lemma isTrimmed_trimChars (s : List Char) : IsTrimmed (trimChars s) where
  head c hc := by
    obtain ⟨after, hafter⟩ := List.rdropWhile_prefix isBlank (s.dropWhile isBlank)
    refine isBlank_of_mem_head?_dropWhile (s := s) ?_
    rw [← hafter, ← trimChars_eq, List.head?_append, hc]
    rfl
  getLast c hc := by
    rw [trimChars, List.getLast?_reverse] at hc
    exact isBlank_of_mem_head?_dropWhile hc

/-- A text is its trimmed text with blanks around it. -/
lemma exists_eq_append_trimChars (s : List Char) :
    ∃ before after, IsBlankOnly before ∧ IsBlankOnly after ∧
      s = before ++ (trimChars s ++ after) := by
  refine ⟨s.takeWhile isBlank, (s.dropWhile isBlank).rtakeWhile isBlank,
    fun c hc => List.mem_takeWhile_imp hc, fun c hc => List.mem_rtakeWhile_imp hc, ?_⟩
  rw [trimChars_eq, List.rdropWhile_append_rtakeWhile, List.takeWhile_append_dropWhile]

/-! ### Pieces -/

lemma notMem_of_mem_splitOn {a : Char} {s part : List Char} (h : part ∈ s.splitOn a) :
    a ∉ part := by
  induction s generalizing part with
  | nil => simp_all
  | cons c s ih =>
      rw [List.splitOn_cons_eq_if_modifyHead] at h
      split_ifs at h with hc
      · rcases List.mem_cons.mp h with rfl | h
        · exact List.not_mem_nil
        · exact ih h
      · cases hs : s.splitOn a with
        | nil => simp [hs] at h
        | cons first rest =>
            rw [hs] at h ih
            rcases List.mem_cons.mp h with rfl | h
            · intro ha
              rcases List.mem_cons.mp ha with rfl | ha
              · exact hc BEq.rfl
              · exact ih List.mem_cons_self ha
            · exact ih (List.mem_cons_of_mem _ h)

/-- Texts without separators are the pieces of the joined text. -/
lemma pieces_join {a : Char} {parts : List String} (hparts : parts ≠ [])
    (h : ∀ part ∈ parts, a ∉ part.toList) :
    pieces a (join (String.singleton a) parts) = parts := by
  have hlists : ∀ l ∈ parts.map String.toList, a ∉ l := by
    simpa using h
  have hne : parts.map String.toList ≠ [] := by simpa using hparts
  rw [pieces, join, String.toList_intercalate, String.toList_singleton,
    List.splitOn_intercalate a hlists hne, List.map_map]
  simp

lemma join_pieces (a : Char) (s : String) : join (String.singleton a) (pieces a s) = s := by
  rw [← String.toList_inj, join, String.toList_intercalate, String.toList_singleton, pieces,
    List.map_map]
  simp

end Strata.Text
