import Strata.Proofs.Graph.Patterns

/-!
Leaving out packages. A text in which no character has a meaning of its own describes itself alone,
and with a star after it all names that begin with it (`describes_literal`,
`describes_literal_run`). Main statement: `withoutMatching_package`, with a dot and a star after its
name a package is left out, however deep it goes, and nothing else.
-/

namespace Strata

namespace Glob

/-! ### Patterns that are read as they stand -/

/-- No character of a text has a meaning of its own in patterns. -/
def IsLiteral (text : String) : Prop := ∀ c ∈ text.toList, c ≠ '?' ∧ c ≠ '*' ∧ c ≠ '['

lemma parseFrom_cons {c : Char} (hc : c ≠ '?' ∧ c ≠ '*' ∧ c ≠ '[') (before : Option Char)
    (position : Nat) (rest : List Char) :
    parseFrom before position (c :: rest) =
      (do return .char c :: (← parseFrom (some c) (position + 1) rest)) := by
  obtain ⟨hquestion, hstar, hbracket⟩ := hc
  rw [parseFrom]
  · exact hquestion
  · exact fun _ h _ => hstar h
  · exact fun _ h _ => hstar h
  · exact hstar
  · exact fun _ h _ => hbracket h
  · exact hbracket

/-- What comes after characters that stand for themselves is read as if it stood alone, if it does
not matter what stands before it. -/
lemma parseFrom_append {s tail : List Char} {pieces : List Piece}
    (hs : ∀ c ∈ s, c ≠ '?' ∧ c ≠ '*' ∧ c ≠ '[')
    (htail : ∀ before position, parseFrom before position tail = .ok pieces)
    (before : Option Char) (position : Nat) :
    parseFrom before position (s ++ tail) = .ok (s.map .char ++ pieces) := by
  induction s generalizing before position with
  | nil => exact htail before position
  | cons c s ih =>
      obtain ⟨hc, hs⟩ := List.forall_mem_cons.mp hs
      rw [List.cons_append, parseFrom_cons hc, ih hs]
      rfl

lemma parse_literal {text : String} (h : IsLiteral text) :
    parse text = .ok (text.toList.map .char) := by
  have hnil : ∀ before position, parseFrom before position [] = .ok [] := by
    intro before position
    rw [parseFrom]
    rfl
  have hparse := parseFrom_append h hnil none 0
  rwa [List.append_nil, List.append_nil] at hparse

lemma parse_literal_run {text : String} (h : IsLiteral text) :
    parse (text ++ "*") = .ok (text.toList.map .char ++ [.run]) := by
  have hstar : ∀ before position, parseFrom before position ['*'] = .ok [.run] := by
    intro before position
    rw [parseFrom, parseFrom]
    · rfl
    · exact fun _ h => by cases h
    · exact fun _ h => by cases h
  rw [parse, String.toList_append]
  exact parseFrom_append h hstar none 0

/-! ### What they describe -/

/-- Pieces for single characters describe what begins with these. -/
lemma matches_map_char_append_iff {s : List Char} {ps : List Piece} {name : List Char} :
    Matches (s.map .char ++ ps) name ↔ ∃ rest, name = s ++ rest ∧ Matches ps rest := by
  induction s generalizing name with
  | nil => simp
  | cons c s ih =>
      have hsingle : (Piece.char c).IsSingle := ⟨nofun, nofun⟩
      rw [List.map_cons, List.cons_append, matches_single_iff hsingle]
      simp only [Piece.admits, beq_iff_eq, ih]
      constructor
      · rintro ⟨_, _, rfl, rfl, rest, rfl, hrest⟩
        exact ⟨rest, rfl, hrest⟩
      · rintro ⟨rest, rfl, hrest⟩
        exact ⟨c, s ++ rest, rfl, rfl, rest, rfl, hrest⟩

/-- A text that stands for itself describes itself. -/
lemma describes_literal {text name : String} (h : IsLiteral text) :
    Describes text name ↔ name = text := by
  rw [Describes, parse_literal h]
  simp only [Except.ok.injEq, exists_eq_left']
  rw [← List.append_nil (text.toList.map Piece.char), matches_map_char_append_iff]
  simp only [matches_nil_iff, exists_eq_right, List.append_nil, String.toList_inj]

/-- With a star after it, it describes all names that begin with it. -/
lemma describes_literal_run {text name : String} (h : IsLiteral text) :
    Describes (text ++ "*") name ↔ text.toList <+: name.toList := by
  rw [Describes, parse_literal_run h]
  simp only [Except.ok.injEq, exists_eq_left', matches_map_char_append_iff, matches_run_iff,
    matches_nil_iff]
  constructor
  · rintro ⟨rest, hname, -⟩
    exact ⟨rest, hname.symm⟩
  · rintro ⟨rest, hname⟩
    exact ⟨rest, hname.symm, [], List.nil_suffix, rfl⟩

end Glob

namespace Graph

/-! ### Packages -/

/-- A name lies in a package: it begins with the package and a dot, whatever comes after that. -/
def LiesIn (package name : String) : Prop := (package ++ ".").toList <+: name.toList

instance (package name : String) : Decidable (LiesIn package name) :=
  inferInstanceAs (Decidable (_ <+: _))

/-- Of the names that begin with a package, those lie in it that go on with a dot. -/
lemma liesIn_append_iff {package rest : String} :
    LiesIn package (package ++ rest) ↔ rest.toList.head? = some '.' := by
  rw [LiesIn, String.toList_append, String.toList_append, List.prefix_append_right_inj]
  cases rest.toList with
  | nil => simp
  | cons c cs => simp [eq_comm]

lemma isLiteral_append_dot {package : String} (h : Glob.IsLiteral package) :
    Glob.IsLiteral (package ++ ".") := by
  intro c hc
  rw [String.toList_append, List.mem_append] at hc
  rcases hc with hc | hc
  · exact h c hc
  · obtain rfl := List.mem_singleton.mp hc
    decide

/-- What one pattern leaves, if it is known what it describes. -/
lemma withoutMatching_singleton {p : String} (hp : Glob.IsPattern p) {P : String → Prop}
    [DecidablePred P] (hP : ∀ name, Glob.Describes p name ↔ P name) (g : Graph) :
    g.withoutMatching [p] = .ok
      { elements := g.elements.filter fun e => ¬ P e.name
        dependencies := g.dependencies.filter fun d => ¬ P d.origin ∧ ¬ P d.target } := by
  refine withoutMatching_eq_ok_iff.mpr ⟨List.forall_mem_singleton.mpr hp, isRest_iff.mp ⟨?_, ?_⟩⟩
  · simp only [List.forall_mem_singleton, hP]
  · simp only [List.forall_mem_singleton, hP]

/-- **Leaving out a package.** With a dot and a star after a name in which no character has a
meaning of its own, all that lies in the package of this name is left out, however deep, and with
nothing after it only the name itself; what goes on otherwise than with a dot stays. -/
theorem withoutMatching_package {package : String} (h : Glob.IsLiteral package) (g : Graph) :
    g.withoutMatching [package ++ ".*"] = .ok
        { elements := g.elements.filter fun e => ¬ LiesIn package e.name
          dependencies := g.dependencies.filter fun d =>
            ¬ LiesIn package d.origin ∧ ¬ LiesIn package d.target } ∧
      g.withoutMatching [package] = .ok
        { elements := g.elements.filter fun e => e.name ≠ package
          dependencies := g.dependencies.filter fun d =>
            d.origin ≠ package ∧ d.target ≠ package } ∧
      ∀ rest, LiesIn package (package ++ rest) ↔ rest.toList.head? = some '.' := by
  have hdot := isLiteral_append_dot h
  have hstar : package ++ ".*" = package ++ "." ++ "*" := by
    rw [String.append_assoc]
    rfl
  refine ⟨?_, ?_, fun rest => liesIn_append_iff⟩
  · rw [hstar]
    exact withoutMatching_singleton ⟨_, Glob.parse_literal_run hdot⟩
      (fun _ => Glob.describes_literal_run hdot) g
  · exact withoutMatching_singleton ⟨_, Glob.parse_literal h⟩ (fun _ => Glob.describes_literal h) g

/-- A package with a bracket and a slash in its name; something lies deep in it, and another package
has a longer name. -/
theorem withoutMatching_package_generated :
    let package := "gen]/a"
    let g : Graph :=
      ⟨[⟨"gen]/a", .classType⟩, ⟨"gen]/a.b/c.Dto", .classType⟩, ⟨"gen]/a.", .enumType⟩,
          ⟨"gen]/ab.Dto", .classType⟩],
        [⟨"gen]/a", "gen]/ab.Dto", .fieldType, none, none, none⟩,
          ⟨"gen]/a", "gen]/a.b/c.Dto", .methodCall, none, none, none⟩]⟩
    Glob.IsLiteral package ∧
      g.withoutMatching ["gen]/a.*"] = .ok
        ⟨[⟨"gen]/a", .classType⟩, ⟨"gen]/ab.Dto", .classType⟩],
          [⟨"gen]/a", "gen]/ab.Dto", .fieldType, none, none, none⟩]⟩ ∧
      g.withoutMatching ["gen]/a"] = .ok
        ⟨[⟨"gen]/a.b/c.Dto", .classType⟩, ⟨"gen]/a.", .enumType⟩, ⟨"gen]/ab.Dto", .classType⟩],
          []⟩ := by
  intro package g
  have hliteral : Glob.IsLiteral package := by simp [Glob.IsLiteral, package]
  obtain ⟨hbelow, hself, -⟩ := withoutMatching_package hliteral g
  refine ⟨hliteral, ?_, ?_⟩
  · exact hbelow.trans (by decide +kernel)
  · exact hself.trans (by decide +kernel)

end Graph

end Strata
