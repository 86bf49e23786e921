import Mathlib.Data.List.Infix
import Mathlib.Tactic.Lemma
import Strata.Glob

/-!
Deciding which names a pattern describes. The table of a name has an entry for each rest of it, and
each entry is right (`tells_table`): what the first piece adds to the entries of the others is right
if these are. Main statement: `accepts_eq_true_iff`, a name is accepted iff the pieces describe it.
-/

namespace Strata.Glob

/-! ### What the first piece takes -/

/-- A piece that stands for exactly one character. -/
def Piece.IsSingle (p : Piece) : Prop := p ≠ .run ∧ p ≠ .components

section Matches

variable {p : Piece} {ps : List Piece} {s : List Char}

lemma matches_nil_iff : Matches [] s ↔ s = [] :=
  ⟨fun h => by cases h; rfl, fun h => h ▸ .nil⟩

lemma matches_single_iff (hp : p.IsSingle) :
    Matches (p :: ps) s ↔ ∃ c t, s = c :: t ∧ p.admits c = true ∧ Matches ps t := by
  constructor
  · intro h
    cases h with
    | cons hc ht => exact ⟨_, _, rfl, hc, ht⟩
    | run => exact absurd rfl hp.1
    | noComponent | components | allComponents => exact absurd rfl hp.2
  · rintro ⟨c, t, rfl, hc, ht⟩
    exact .cons hc ht

/-- What comes after a star is some rest of the name. -/
lemma matches_run_iff : Matches (.run :: ps) s ↔ ∃ t, t <:+ s ∧ Matches ps t := by
  constructor
  · intro h
    cases h with
    | cons hc => cases hc
    | run u ht => exact ⟨_, List.suffix_append u _, ht⟩
  · rintro ⟨t, ⟨u, rfl⟩, ht⟩
    exact .run u ht

/-- What comes after whole components is the name itself, a rest of it after a slash, or nothing. -/
lemma matches_components_iff :
    Matches (.components :: ps) s ↔
      Matches ps s ∨ (∃ t, '/' :: t <:+ s ∧ Matches ps t) ∨ Matches ps [] := by
  constructor
  · intro h
    cases h with
    | cons hc => cases hc
    | noComponent ht => exact .inl ht
    | components u ht => exact .inr (.inl ⟨_, List.suffix_append u _, ht⟩)
    | allComponents _ ht => exact .inr (.inr ht)
  · rintro (ht | ⟨t, ⟨u, rfl⟩, ht⟩ | ht)
    · exact .noComponent ht
    · exact .components u ht
    · exact .allComponents s ht

end Matches

/-! ### Tables that are right -/

/-- A table tells of each rest of a name, from the whole name to the empty rest, whether it has a
property. -/
inductive Tells (P : List Char → Prop) : List Char → List Bool → Prop where
  | nil {b : Bool} (hb : b = true ↔ P []) : Tells P [] [b]
  | cons {c : Char} {s : List Char} {b : Bool} {bs : List Bool} (hb : b = true ↔ P (c :: s))
      (hbs : Tells P s bs) : Tells P (c :: s) (b :: bs)

namespace Tells

variable {P Q R : List Char → Prop} {s : List Char} {bs cs : List Bool}

lemma headD_eq_true_iff (h : Tells P s bs) : bs.headD false = true ↔ P s := by
  cases h with
  | nil hb => exact hb
  | cons hb => exact hb

lemma getLastD_eq_true_iff (h : Tells P s bs) : bs.getLastD false = true ↔ P [] := by
  induction h with
  | nil hb => exact hb
  | cons _ hbs ih =>
      cases hbs with
      | nil => exact ih
      | cons => exact ih

lemma congr (h : Tells P s bs) (hPQ : ∀ t, P t ↔ Q t) : Tells Q s bs := by
  induction h with
  | nil hb => exact .nil (hb.trans (hPQ _))
  | cons hb _ ih => exact .cons (hb.trans (hPQ _)) ih

lemma zipWith (hP : Tells P s bs) (hQ : Tells Q s cs) {f : Bool → Bool → Bool}
    (hf : ∀ t b c, (b = true ↔ P t) → (c = true ↔ Q t) → (f b c = true ↔ R t)) :
    Tells R s (List.zipWith f bs cs) := by
  induction hP generalizing cs with
  | nil hb =>
      cases hQ with
      | nil hc => exact .nil (hf _ _ _ hb hc)
  | cons hb _ ih =>
      cases hQ with
      | cons hc hcs => exact .cons (hf _ _ _ hb hc) (ih hcs)

/-! ### The tables of single pieces -/

lemma foldr_false (s : List Char) :
    Tells (· = []) s (s.foldr (fun _ rest => false :: rest) [true]) := by
  induction s with
  | nil => exact .nil (by simp)
  | cons c s ih => exact .cons (by simp) ih

lemma singleTable (h : Tells P s bs) (p : Piece) :
    Tells (fun t => ∃ c u, t = c :: u ∧ p.admits c = true ∧ P u) s (singleTable p s bs) := by
  induction h with
  | nil => exact .nil (by simp)
  | cons _ hbs ih =>
      refine .cons ?_ ih
      rw [Bool.and_eq_true, hbs.headD_eq_true_iff]
      simp

lemma runTable (h : Tells P s bs) : Tells (fun t => ∃ u, u <:+ t ∧ P u) s (runTable bs) := by
  induction h with
  | nil hb => exact .nil (by simpa [Glob.runTable] using hb)
  | cons hb _ ih =>
      refine .cons ?_ ih
      rw [Bool.or_eq_true, hb, ih.headD_eq_true_iff]
      simp only [List.suffix_cons_iff, or_and_right, exists_or, exists_eq_left]

lemma slashTable (h : Tells P s bs) :
    Tells (fun t => ∃ u, '/' :: u <:+ t ∧ P u) s (slashTable s bs) := by
  induction h with
  | nil => exact .nil (by simp)
  | @cons c s b bs _ hbs ih =>
      refine .cons ?_ ih
      rw [Bool.or_eq_true, Bool.and_eq_true, beq_iff_eq, hbs.headD_eq_true_iff,
        ih.headD_eq_true_iff]
      simp only [List.suffix_cons_iff, List.cons.injEq, or_and_right, exists_or]
      refine or_congr_left ?_
      constructor
      · rintro ⟨rfl, hs⟩
        exact ⟨s, ⟨rfl, rfl⟩, hs⟩
      · rintro ⟨u, ⟨rfl, rfl⟩, hs⟩
        exact ⟨rfl, hs⟩

lemma componentsTable (h : Tells P s bs) :
    Tells (fun t => P t ∨ (∃ u, '/' :: u <:+ t ∧ P u) ∨ P []) s (componentsTable s bs) := by
  refine h.zipWith h.slashTable fun t b c hb hc => ?_
  rw [Bool.or_eq_true, Bool.or_eq_true, hb, hc, h.getLastD_eq_true_iff, or_assoc]

end Tells

/-! ### The table of a name -/

lemma table_single {p : Piece} (hp : p.IsSingle) (s : List Char) (ps : List Piece) :
    table s (p :: ps) = singleTable p s (table s ps) := by
  cases p with
  | run => exact absurd rfl hp.1
  | components => exact absurd rfl hp.2
  | _ => rfl

/-- **Every entry is right**, by induction on the pieces from the last one on. -/
lemma tells_table (s : List Char) (ps : List Piece) : Tells (Matches ps) s (table s ps) := by
  induction ps with
  | nil => exact (Tells.foldr_false s).congr fun _ => matches_nil_iff.symm
  | cons p ps ih =>
      by_cases hrun : p = .run
      · subst hrun
        exact ih.runTable.congr fun _ => matches_run_iff.symm
      by_cases hcomponents : p = .components
      · subst hcomponents
        exact ih.componentsTable.congr fun _ => matches_components_iff.symm
      have hp : p.IsSingle := ⟨hrun, hcomponents⟩
      rw [table_single hp]
      exact (ih.singleTable p).congr fun _ => (matches_single_iff hp).symm

/-- **A name is accepted iff the pieces describe it.** -/
lemma accepts_eq_true_iff {ps : List Piece} {name : String} :
    accepts ps name = true ↔ Matches ps name.toList :=
  (tells_table name.toList ps).headD_eq_true_iff

/-- A text is a pattern that describes a name. -/
def Describes (text name : String) : Prop :=
  ∃ pieces, parse text = .ok pieces ∧ Matches pieces name.toList

end Strata.Glob
