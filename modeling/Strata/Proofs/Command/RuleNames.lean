import Strata.Command.Check
import Strata.Proofs.Text.Trimming

/-!
Names of rules in one text. They stand between commas, with blanks around them, and there may be
blank pieces between the commas that hold no name (`Holds`). Main statement: `ruleNames_eq_iff`, a
text is read as some names iff it is made of them in this way.
-/

namespace Strata.Command

open Text

/-- What can be read as the name of a rule: something without commas and without blanks at its
ends. -/
structure IsRuleName (name : String) : Prop where
  ne_empty : name ≠ ""
  comma : ',' ∉ name.toList
  isTrimmed : IsTrimmed name.toList

/-- Pieces that hold names, in order: each name with blanks around it, and blanks alone anywhere. -/
inductive Holds : List String → List String → Prop where
  | nil : Holds [] []
  | blank {piece : String} {pieces names : List String} (hpiece : IsBlankOnly piece.toList)
      (hrest : Holds pieces names) : Holds (piece :: pieces) names
  | padded {before after : List Char} {piece name : String} {pieces names : List String}
      (hbefore : IsBlankOnly before) (hafter : IsBlankOnly after)
      (hpiece : piece.toList = before ++ (name.toList ++ after)) (hrest : Holds pieces names) :
      Holds (piece :: pieces) (name :: names)

/-- The names in pieces: what is left of them without blanks, if anything. -/
def namesIn (pieces : List String) : List String :=
  (pieces.map trim).filter fun name => !name.isEmpty

lemma ruleNames_eq (text : String) : ruleNames text = namesIn (pieces ',' text) := rfl

/-! ### Reading pieces -/

section Pieces

variable {piece name : String} {pieces names : List String}

lemma namesIn_cons_of_trim_eq_empty (h : trim piece = "") :
    namesIn (piece :: pieces) = namesIn pieces := by
  rw [namesIn, List.map_cons, List.filter_cons_of_neg (by simp [h]), namesIn]

lemma namesIn_cons_of_trim_ne_empty (h : trim piece ≠ "") :
    namesIn (piece :: pieces) = trim piece :: namesIn pieces := by
  rw [namesIn, List.map_cons, List.filter_cons_of_pos (by simpa using h), namesIn]

lemma trim_of_isBlankOnly (h : IsBlankOnly piece.toList) : trim piece = "" := by
  rw [trim, trimChars_of_isBlankOnly h]

/-- The names that are held are the names that are read. -/
lemma Holds.namesIn_eq (h : Holds pieces names) (hnames : ∀ name ∈ names, IsRuleName name) :
    namesIn pieces = names := by
  induction h with
  | nil => rfl
  | blank hpiece _ ih => rw [namesIn_cons_of_trim_eq_empty (trim_of_isBlankOnly hpiece), ih hnames]
  | @padded before after piece name pieces names hbefore hafter hpiece _ ih =>
      obtain ⟨hname, hrest⟩ := List.forall_mem_cons.mp hnames
      have htrim : trim piece = name := by
        rw [trim, hpiece, trimChars_append hname.isTrimmed hbefore hafter, String.ofList_toList]
      rw [namesIn_cons_of_trim_ne_empty (by rw [htrim]; exact hname.ne_empty), htrim, ih hrest]

/-- Whatever the pieces are, they hold the names that are read. -/
lemma holds_namesIn (pieces : List String) : Holds pieces (namesIn pieces) := by
  induction pieces with
  | nil => exact .nil
  | cons piece pieces ih =>
      obtain ⟨before, after, hbefore, hafter, hpiece⟩ := exists_eq_append_trimChars piece.toList
      by_cases htrim : trim piece = ""
      · rw [namesIn_cons_of_trim_eq_empty htrim]
        have hnothing : trimChars piece.toList = [] := by simpa [trim] using htrim
        refine .blank ?_ ih
        rw [hpiece, hnothing, List.nil_append]
        exact hbefore.append hafter
      · rw [namesIn_cons_of_trim_ne_empty htrim]
        refine .padded hbefore hafter ?_ ih
        rwa [trim, String.toList_ofList]

lemma isRuleName_of_mem_namesIn (hpieces : ∀ piece ∈ pieces, ',' ∉ piece.toList)
    (h : name ∈ namesIn pieces) : IsRuleName name := by
  obtain ⟨hmem, hne⟩ := List.mem_filter.mp h
  obtain ⟨piece, hpiece, rfl⟩ := List.mem_map.mp hmem
  obtain ⟨before, after, -, -, heq⟩ := exists_eq_append_trimChars piece.toList
  refine ⟨by simpa using hne, fun hcomma => hpieces piece hpiece ?_, ?_⟩
  · rw [trim, String.toList_ofList] at hcomma
    rw [heq]
    exact List.mem_append_right _ (List.mem_append_left _ hcomma)
  · rw [trim, String.toList_ofList]
    exact isTrimmed_trimChars _

/-- Names need no blanks around them. -/
lemma holds_self (names : List String) : Holds names names := by
  induction names with
  | nil => exact .nil
  | cons name names ih =>
      have hnothing : IsBlankOnly [] := nofun
      exact .padded hnothing hnothing (by simp) ih

/-- A comma is no blank, so pieces that hold names are without commas as the names are. -/
lemma Holds.comma_notMem (h : Holds pieces names) (hnames : ∀ name ∈ names, IsRuleName name) :
    ∀ piece ∈ pieces, ',' ∉ piece.toList := by
  have hblank : ∀ {s : List Char}, IsBlankOnly s → ',' ∉ s := fun hs hcomma =>
    absurd (hs ',' hcomma) (by decide)
  induction h with
  | nil => nofun
  | blank hpiece _ ih => exact List.forall_mem_cons.mpr ⟨hblank hpiece, ih hnames⟩
  | padded hbefore hafter hpiece _ ih =>
      obtain ⟨hname, hrest⟩ := List.forall_mem_cons.mp hnames
      refine List.forall_mem_cons.mpr ⟨?_, ih hrest⟩
      rw [hpiece, List.mem_append, List.mem_append, not_or, not_or]
      exact ⟨hblank hbefore, hname.comma, hblank hafter⟩

end Pieces

/-! ### Reading texts -/

lemma isRuleName_of_mem_ruleNames {text name : String} (h : name ∈ ruleNames text) :
    IsRuleName name := by
  refine isRuleName_of_mem_namesIn (fun piece hpiece => ?_) h
  obtain ⟨part, hpart, rfl⟩ := List.mem_map.mp hpiece
  rw [String.toList_ofList]
  exact notMem_of_mem_splitOn hpart

lemma Holds.ruleNames_join {pieces names : List String} (h : Holds pieces names)
    (hnames : ∀ name ∈ names, IsRuleName name) : ruleNames (join "," pieces) = names := by
  by_cases hpieces : pieces = []
  · subst hpieces
    cases h
    rfl
  · have hcut : Text.pieces ',' (join "," pieces) = pieces :=
      pieces_join hpieces (h.comma_notMem hnames)
    rw [ruleNames_eq, hcut, h.namesIn_eq hnames]

/-- **How names of rules are written**: a text is read as some names iff it is made of pieces that
hold them, with commas between the pieces. So what has been read is read again from the names with
nothing but commas between them. Without a text no names are read. -/
theorem ruleNames_eq_iff (text : String) (names : List String) (o : CheckOptions) :
    (ruleNames text = names ↔
      (∀ name ∈ names, IsRuleName name) ∧
        ∃ pieces, Holds pieces names ∧ text = join "," pieces) ∧
      ruleNames (join "," (ruleNames text)) = ruleNames text ∧
      selection { o with rules := some text } = ruleNames text ∧
      selection { o with rules := none } = [] := by
  refine ⟨⟨?_, ?_⟩, ?_, rfl, rfl⟩
  · rintro rfl
    exact ⟨fun name hname => isRuleName_of_mem_ruleNames hname, Text.pieces ',' text,
      holds_namesIn _, (join_pieces ',' text).symm⟩
  · rintro ⟨hnames, pieces, hholds, rfl⟩
    exact hholds.ruleNames_join hnames
  · exact (holds_self _).ruleNames_join fun name hname => isRuleName_of_mem_ruleNames hname

/-- An ideographic space is a blank as well, and blanks inside a name belong to it. -/
example : ruleNames ",\u3000naming ,, no  cycles\t,naming" = ["naming", "no  cycles", "naming"] := by
  decide +kernel

end Strata.Command
