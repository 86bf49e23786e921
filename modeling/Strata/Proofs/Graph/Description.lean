import Mathlib
import Strata.Graph

/-!
The lines by which reports tell dependencies. A line is put together from words, names and a place,
and each of them ends where a certain character comes for the first time, as long as names and
files do without it (`Dependency.IsDelimited`). So what a line is made of can be taken out of it
again. Main statement: `description_eq_iff`, two lines are the same iff they tell the same.
-/

namespace Strata

/-- A text splits in one way only where a character comes for the first time. -/
lemma append_cons_inj_of_notMem {α : Type} {a : α} {x y s t : List α} (hx : a ∉ x) (hy : a ∉ y) :
    x ++ a :: s = y ++ a :: t ↔ x = y ∧ s = t := by
  induction x generalizing y with
  | nil =>
      cases y with
      | nil => simp
      | cons b y => simp [List.ne_of_not_mem_cons hy]
  | cons b x ih =>
      have hrest := List.not_mem_of_not_mem_cons hx
      cases y with
      | nil => simp [(List.ne_of_not_mem_cons hx).symm]
      | cons c y => simp [ih hrest (List.not_mem_of_not_mem_cons hy), and_assoc]

/-! ### Words -/

lemma ElementKind.label_inj {k l : ElementKind} : k.label = l.label ↔ k = l := by
  cases k <;> cases l <;> decide

lemma ElementKind.notMem_label (k : ElementKind) : '<' ∉ k.label.toList := by
  cases k <;> decide

lemma DependencyKind.phrase_inj {k l : DependencyKind} : k.phrase = l.phrase ↔ k = l := by
  cases k <;> cases l <;> decide

lemma DependencyKind.notMem_phrase (k : DependencyKind) : '<' ∉ k.phrase.toList := by
  cases k <;> decide

/-! ### Places -/

namespace Dependency

variable {d e : Dependency}

/-- The line after the name of the file, if it is known. -/
def lineMark (line : Option UInt64) : List Char :=
  line.elim [] fun l => ':' :: (toString l.toNat).toList

/-- A place is told by the file, the line if it is known, and what stands around both. -/
lemma toList_location (d : Dependency) :
    d.location.toList = d.sourceFile.elim [] fun file =>
      [' ', 'i', 'n', ' ', '('] ++ (file.toList ++ lineMark d.line) ++ [')'] := by
  cases hfile : d.sourceFile <;> cases hline : d.line <;> simp [location, lineMark, hfile, hline]

/-- A file does not go on where the number of a line begins. -/
lemma append_lineMark_inj {file file' : String} (h : ':' ∉ file.toList) (h' : ':' ∉ file'.toList)
    (line line' : Option UInt64) :
    file.toList ++ lineMark line = file'.toList ++ lineMark line' ↔
      file = file' ∧ line = line' := by
  cases line with
  | none =>
      cases line' with
      | none => simp [lineMark, String.toList_inj]
      | some l' =>
          have hne : file.toList ≠ file'.toList ++ lineMark (some l') :=
            fun heq => h (heq ▸ by simp [lineMark])
          simpa [lineMark] using hne
  | some l =>
      cases line' with
      | none =>
          have hne : file.toList ++ lineMark (some l) ≠ file'.toList :=
            fun heq => h' (heq ▸ by simp [lineMark])
          simpa [lineMark] using hne
      | some l' =>
          have hdigits : toString l.toNat = toString l'.toNat ↔ l = l' :=
            ⟨fun heq => UInt64.toNat_inj.mp (Nat.repr_injective heq), fun heq => heq ▸ rfl⟩
          simp only [lineMark, Option.elim_some]
          rw [append_cons_inj_of_notMem h h', String.toList_inj, String.toList_inj, hdigits,
            Option.some.injEq]

/-! ### Whole lines -/

lemma toList_description (d : Dependency) :
    d.description.toList =
      ((d.originKind.getD default).label.toList ++ [' ']) ++ '<' :: (d.origin.toList ++ '>' ::
        ((' ' :: d.kind.phrase.toList ++ [' ']) ++ '<' ::
          (d.target.toList ++ '>' :: d.location.toList))) := by
  simp [description, Element.display]

/-- Nothing in names and files looks like the end of them. -/
structure IsDelimited (d : Dependency) : Prop where
  origin : '>' ∉ d.origin.toList
  target : '>' ∉ d.target.toList
  sourceFile : ∀ file ∈ d.sourceFile, ':' ∉ file.toList

/-- Two dependencies between the same elements, of the same kinds and at the same place. An origin
of unknown kind is a class, and a line without a file is no place. -/
structure IsToldLike (d e : Dependency) : Prop where
  origin_eq : d.origin = e.origin
  target_eq : d.target = e.target
  kind_eq : d.kind = e.kind
  originKind_eq : d.originKind.getD .classType = e.originKind.getD .classType
  sourceFile_eq : d.sourceFile = e.sourceFile
  line_eq : d.sourceFile.isSome = true → d.line = e.line

lemma location_eq_iff (hd : d.IsDelimited) (he : e.IsDelimited) :
    d.location = e.location ↔
      d.sourceFile = e.sourceFile ∧ (d.sourceFile.isSome = true → d.line = e.line) := by
  rw [← String.toList_inj, toList_location, toList_location]
  cases hfile : d.sourceFile with
  | none => cases e.sourceFile <;> simp
  | some file =>
      cases hfile' : e.sourceFile with
      | none => simp
      | some file' =>
          have hplace := append_lineMark_inj (hd.sourceFile file hfile)
            (he.sourceFile file' hfile') d.line e.line
          simp only [Option.elim_some, List.append_cancel_left_eq, List.append_cancel_right_eq,
            hplace]
          simp

/-- **A line identifies its dependency**: two lines are the same iff they tell the same
dependency. -/
theorem description_eq_iff (hd : d.IsDelimited) (he : e.IsDelimited) :
    d.description = e.description ↔ d.IsToldLike e := by
  have hlabel : ∀ k : ElementKind, '<' ∉ k.label.toList ++ [' '] := fun k => by
    simpa using k.notMem_label
  have hphrase : ∀ k : DependencyKind, '<' ∉ ' ' :: k.phrase.toList ++ [' '] := fun k => by
    simpa using k.notMem_phrase
  -- from left to right, each part up to the character that ends it
  rw [← String.toList_inj, toList_description, toList_description,
    append_cons_inj_of_notMem (hlabel _) (hlabel _), append_cons_inj_of_notMem hd.origin he.origin,
    append_cons_inj_of_notMem (hphrase _) (hphrase _),
    append_cons_inj_of_notMem hd.target he.target]
  simp only [List.cons_append, List.cons.injEq, true_and, List.append_cancel_right_eq,
    String.toList_inj, ElementKind.label_inj, DependencyKind.phrase_inj, location_eq_iff hd he]
  constructor
  · rintro ⟨horiginKind, horigin, hkind, htarget, hfile, hline⟩
    exact ⟨horigin, htarget, hkind, horiginKind, hfile, hline⟩
  · rintro ⟨horigin, htarget, hkind, horiginKind, hfile, hline⟩
    exact ⟨horiginKind, horigin, hkind, htarget, hfile, hline⟩

/-- An origin without a kind is told like a class; the same file without the line is told apart. -/
theorem description_eq_iff_user :
    let d : Dependency := ⟨"a.<User", "b.Repo", .fieldType, some "U (1).java", some 12, none⟩
    let e : Dependency := { d with originKind := some .classType }
    let f : Dependency := { d with line := none }
    d.IsDelimited ∧ e.IsDelimited ∧ f.IsDelimited ∧ d.description = e.description ∧
      d.IsToldLike e ∧ d.description ≠ f.description := by
  intro d e f
  have hfile : ∀ file ∈ d.sourceFile, ':' ∉ file.toList := by
    intro file hfile
    cases hfile
    decide
  have hd : d.IsDelimited := ⟨by decide, by decide, hfile⟩
  have he : e.IsDelimited := ⟨hd.origin, hd.target, hfile⟩
  have hf : f.IsDelimited := ⟨hd.origin, hd.target, hfile⟩
  have hlines : d.description = e.description := by decide
  refine ⟨hd, he, hf, hlines, (description_eq_iff hd he).mp hlines, fun h => ?_⟩
  have hline : d.line = f.line := ((description_eq_iff hd hf).mp h).line_eq rfl
  cases hline

/-- A colon in the name of a file passes for the one before a line. -/
example :
    description ⟨"a.User", "b.Repo", .fieldType, some "U:1", none, none⟩ =
      description ⟨"a.User", "b.Repo", .fieldType, some "U", some 1, none⟩ := by
  decide

end Dependency

end Strata
