import Mathlib.Data.List.Forall2
import Strata.Graph.Exclusion
import Strata.Proofs.Success

/-!
Leaving elements out of a graph, whatever the order in which patterns are looked at. It fails
exactly if some pattern is none, and else it drops what any of the patterns matches
(`withoutMatching_eq_ok_iff`).
-/

namespace Strata

namespace Glob

/-- A text that is a pattern. -/
def IsPattern (text : String) : Prop := ∃ pieces, parse text = .ok pieces

/-- Whether a text is a pattern that matches a name. -/
def hits (text name : String) : Bool :=
  match parse text with
  | .ok pieces => accepts pieces name
  | .error _ => false

/-- Whether one of some patterns matches a name. -/
def anyHits (patterns : List String) (name : String) : Bool := patterns.any fun p => hits p name

lemma anyHits_append (ps qs : List String) (name : String) :
    anyHits (ps ++ qs) name = (anyHits ps name || anyHits qs name) := List.any_append

lemma parseAll_eq_ok_iff {patterns : List String} {globs : List (List Piece)} :
    parseAll patterns = .ok globs ↔
      List.Forall₂ (fun p pieces => parse p = .ok pieces) patterns globs := by
  rw [parseAll, mapM_eq_ok_iff]
  constructor
  · refine fun h => h.imp fun p pieces hp => ?_
    cases hparse : parse p with
    | ok pieces' => simpa [hparse] using hp
    | error fault => simp [hparse] at hp
  · exact fun h => h.imp fun p pieces hp => by simp [hp]

lemma exists_parseAll_eq_ok_iff {patterns : List String} :
    (∃ globs, parseAll patterns = .ok globs) ↔ ∀ p ∈ patterns, IsPattern p := by
  simp only [parseAll_eq_ok_iff]
  induction patterns with
  | nil => simp
  | cons p ps ih =>
      simp only [List.forall₂_cons_left_iff, List.forall_mem_cons, ← ih]
      constructor
      · rintro ⟨_, pieces, globs, hp, hps, -⟩
        exact ⟨⟨pieces, hp⟩, globs, hps⟩
      · rintro ⟨⟨pieces, hp⟩, globs, hps⟩
        exact ⟨_, pieces, globs, hp, hps, rfl⟩

lemma any_accepts_eq {patterns : List String} {globs : List (List Piece)}
    (h : parseAll patterns = .ok globs) (name : String) :
    (globs.any fun glob => accepts glob name) = anyHits patterns name := by
  rw [parseAll_eq_ok_iff] at h
  induction h with
  | nil => rfl
  | cons hp _ ih => simp [anyHits, hits, hp, ih]

end Glob

namespace Graph

/-- Names may be left out one after the other. -/
lemma without_or (g : Graph) (excluded excluded' : String → Bool) :
    g.without (fun name => excluded name || excluded' name) =
      (g.without excluded).without excluded' := by
  simp only [without, List.filter_filter, Bool.not_or, Graph.mk.injEq]
  refine ⟨List.filter_congr fun e _ => Bool.and_comm _ _, List.filter_congr fun d _ => ?_⟩
  cases excluded d.origin <;> cases excluded d.target <;> simp

/-- What more patterns match may be left out afterwards. -/
lemma without_anyHits_append (g : Graph) (ps qs : List String) :
    g.without (Glob.anyHits (ps ++ qs)) =
      (g.without (Glob.anyHits ps)).without (Glob.anyHits qs) := by
  rw [← without_or]
  exact congrArg g.without (funext (Glob.anyHits_append ps qs))

/-- Leaving out succeeds iff all patterns are patterns, and what any of them matches is gone. -/
lemma withoutMatching_eq_ok_iff {g rest : Graph} {patterns : List String} :
    g.withoutMatching patterns = .ok rest ↔
      (∀ p ∈ patterns, Glob.IsPattern p) ∧ rest = g.without (Glob.anyHits patterns) := by
  rw [withoutMatching, bind_eq_ok_iff, ← Glob.exists_parseAll_eq_ok_iff, exists_and_right.symm]
  refine exists_congr fun globs => and_congr_right fun hglobs => ?_
  have hany : (fun name => globs.any fun glob => Glob.accepts glob name) = Glob.anyHits patterns :=
    funext (Glob.any_accepts_eq hglobs)
  rw [hany]
  simp [pure, Except.pure, eq_comm]

end Graph

end Strata
