import Strata.Proofs.Json.Reading

/-!
Reading what was written with one item a line. Blanks between lexemes change nothing for a reader
(`foldl_feed_blanks`), so a text may have any of them before it and after it
(`ReadsAs.blanks_append`, `ReadsAs.append_blanks`), and the new lines and indentations are such.
Main statement: `ofJson_pretty`, every value is read back from its text with one item a line,
whatever blanks come after it.
-/

namespace Strata.Json

open Reader

/-! ### Blanks -/

/-- White space that may stand between lexemes. -/
def IsBlanks (s : List Char) : Prop := ∀ c ∈ s, isBlank c = true

lemma isBlanks_line (level : Nat) : IsBlanks (line level) := by
  intro c hc
  rcases List.mem_cons.mp hc with rfl | hc
  · rfl
  · obtain rfl := List.eq_of_mem_replicate hc
    rfl

lemma isBlanks_space : IsBlanks [' '] := by
  intro c hc
  obtain rfl := List.mem_singleton.mp hc
  rfl

/-- Numbers end where blanks begin. -/
lemma endsNumber_of_isBlank {c : Char} (h : isBlank c = true) : EndsNumber c := by
  simp only [isBlank, Bool.or_eq_true, decide_eq_true_eq] at h
  rcases h with ((rfl | rfl) | rfl) | rfl <;> exact ⟨rfl, rfl⟩

section Blanks

variable {blanks : List Char} (hblanks : IsBlanks blanks) {expects : Expects}
  {frames : List Frame} {root : Option Datum}

include hblanks

/-- Between two lexemes blanks are passed over. -/
lemma foldl_feed_blanks :
    blanks.foldl feed ⟨.between, expects, frames, root, false⟩ =
      ⟨.between, expects, frames, root, false⟩ := by
  induction blanks with
  | nil => rfl
  | cons c blanks ih =>
      obtain ⟨hc, hblanks⟩ := List.forall_mem_cons.mp hblanks
      have hfeed : feed ⟨.between, expects, frames, root, false⟩ c =
          ⟨.between, expects, frames, root, false⟩ := by
        simp [feed, feedBetween, hc]
      rw [List.foldl_cons, hfeed, ih hblanks]

/-- After a number blanks end it, after anything else they are passed over. -/
lemma agree_foldl_feed_blanks {r : Reader}
    (h : r.Agree ⟨.between, expects, frames, root, false⟩) :
    (blanks.foldl feed r).Agree ⟨.between, expects, frames, root, false⟩ := by
  cases blanks with
  | nil => exact h
  | cons c blanks =>
      have hc : EndsNumber c := endsNumber_of_isBlank (hblanks c List.mem_cons_self)
      refine .of_eq ?_
      rw [List.foldl_cons, h.feed_eq c hc, ← List.foldl_cons, foldl_feed_blanks hblanks]

variable {text : List Char}

lemma ReadsAs.blanks_append {d : Datum} (h : ReadsAs text d) : ReadsAs (blanks ++ text) d := by
  intro opened frames root hplace
  rw [List.foldl_append, waiting, foldl_feed_blanks hblanks]
  exact h opened frames root hplace

lemma ReadsAs.append_blanks {d : Datum} (h : ReadsAs text d) : ReadsAs (text ++ blanks) d := by
  intro opened frames root hplace
  obtain ⟨expects, frames', root', heq⟩ := exists_accept_waiting_eq hplace opened root d
  have hread := h opened frames root hplace
  rw [heq] at hread ⊢
  rw [List.foldl_append]
  exact agree_foldl_feed_blanks hblanks hread

variable {e : Option String × Datum}

lemma EntryReadsAs.blanks_append (h : EntryReadsAs text e) : EntryReadsAs (blanks ++ text) e := by
  intro opened entries frames root
  rw [List.foldl_append, foldl_feed_blanks hblanks]
  exact h opened entries frames root

lemma EntryReadsAs.append_blanks (h : EntryReadsAs text e) : EntryReadsAs (text ++ blanks) e := by
  intro opened entries frames root
  rw [List.foldl_append]
  exact agree_foldl_feed_blanks hblanks (h opened entries frames root)

end Blanks

/-! ### Lists and tables with blanks before their end -/

/-- What stands after the last of several texts may be counted to it. -/
lemma exists_intercalate_append {β : Type} {R : List Char → β → Prop} {after : List Char}
    (hafter : ∀ text b, R text b → R (text ++ after) b) {texts : List (List Char)} {bs : List β}
    (h : List.Forall₂ R texts bs) (hne : texts ≠ []) :
    ∃ texts', List.Forall₂ R texts' bs ∧
      [','].intercalate texts' = [','].intercalate texts ++ after := by
  induction h with
  | nil => exact absurd rfl hne
  | @cons text b texts bs htext htexts ih =>
      by_cases hrest : texts = []
      · subst hrest
        cases htexts
        refine ⟨[text ++ after], .cons (hafter text b htext) .nil, ?_⟩
        rw [List.intercalate_singleton, List.intercalate_singleton]
      · obtain ⟨texts', htexts', heq⟩ := ih hrest
        have hrest' : texts' ≠ [] := by
          rintro rfl
          cases htexts'
          cases htexts
          exact hrest rfl
        refine ⟨text :: texts', .cons htext htexts', ?_⟩
        rw [List.intercalate_cons_of_ne_nil hrest, List.intercalate_cons_of_ne_nil hrest', heq]
        simp only [List.append_assoc]

section Ends

variable {texts : List (List Char)} {blanks : List Char}

lemma readsAs_list_blanks {ds : List Datum} (h : List.Forall₂ ReadsAs texts ds)
    (hne : texts ≠ []) (hblanks : IsBlanks blanks) :
    ReadsAs ('[' :: [','].intercalate texts ++ blanks ++ [']']) (.list ds true) := by
  obtain ⟨texts', htexts', heq⟩ :=
    exists_intercalate_append (fun _ _ htext => htext.append_blanks hblanks) h hne
  rw [List.cons_append, ← heq]
  exact readsAs_list htexts'

lemma readsAs_table_blanks {es : List (Option String × Datum)}
    (h : List.Forall₂ EntryReadsAs texts es) (hne : texts ≠ []) (hblanks : IsBlanks blanks) :
    ReadsAs (openBrace :: [','].intercalate texts ++ blanks ++ [closeBrace]) (.table es true) := by
  obtain ⟨texts', htexts', heq⟩ :=
    exists_intercalate_append (fun _ _ htext => htext.append_blanks hblanks) h hne
  rw [List.cons_append, ← heq]
  exact readsAs_table htexts'

end Ends

/-! ### Whole texts -/

/-- The text of a member, on a line of its own. -/
def memberLine (level : Nat) (m : String × Json) : List Char :=
  line level ++ quote m.1.toList ++ ':' :: ' ' :: prettyChars level m.2

lemma prettyItems_eq (level : Nat) (items : List Json) :
    prettyItems level items =
      [','].intercalate (items.map fun v => line level ++ prettyChars level v) := by
  induction items with
  | nil => rfl
  | cons v rest ih =>
      cases rest with
      | nil => simp [prettyItems]
      | cons w rest => simp [prettyItems, ih]

lemma prettyMembers_eq (level : Nat) (members : List (String × Json)) :
    prettyMembers level members = [','].intercalate (members.map (memberLine level)) := by
  induction members with
  | nil => rfl
  | cons m rest ih =>
      cases rest with
      | nil => simp [prettyMembers, memberLine]
      | cons m' rest => simp [prettyMembers, memberLine, ih]

lemma entryReadsAs_memberLine {level : Nat} {m : String × Json} {d : Datum}
    (h : ReadsAs (prettyChars level m.2) d) : EntryReadsAs (memberLine level m) (some m.1, d) := by
  have hentry := (h.blanks_append isBlanks_space).entry m.1
  rw [memberLine, List.append_assoc]
  exact hentry.blanks_append (isBlanks_line level)

mutual

/-- The induction over the value. -/
lemma readsAs_prettyChars : ∀ (level : Nat) (v : Json), ReadsAs (prettyChars level v) v.toDatum
  | _, natural n => by
      rw [prettyChars, toDatum]
      exact readsAs_digits n
  | _, string s => by
      rw [prettyChars, toDatum]
      exact readsAs_quote s
  | level, array items => by
      have hitems := forall₂_readsAs_lines (level + 1) items
      rw [toDatum]
      cases items with
      | nil => exact readsAs_list .nil
      | cons v rest =>
          rw [prettyChars, prettyItems_eq]
          exact readsAs_list_blanks hitems (List.cons_ne_nil _ _) (isBlanks_line level)
  | level, object members => by
      have hmembers := forall₂_entryReadsAs_lines (level + 1) members
      rw [toDatum]
      cases members with
      | nil => exact readsAs_table .nil
      | cons m rest =>
          rw [prettyChars, prettyMembers_eq]
          exact readsAs_table_blanks hmembers (List.cons_ne_nil _ _) (isBlanks_line level)

/-- The induction over the items of an array. -/
lemma forall₂_readsAs_lines : ∀ (level : Nat) (items : List Json),
    List.Forall₂ ReadsAs (items.map fun v => line level ++ prettyChars level v) (toData items)
  | _, [] => .nil
  | level, v :: rest =>
      .cons ((readsAs_prettyChars level v).blanks_append (isBlanks_line level))
        (forall₂_readsAs_lines level rest)

/-- The induction over the members of an object. -/
lemma forall₂_entryReadsAs_lines : ∀ (level : Nat) (members : List (String × Json)),
    List.Forall₂ EntryReadsAs (members.map (memberLine level)) (toEntries members)
  | _, [] => .nil
  | level, (_, v) :: rest =>
      .cons (entryReadsAs_memberLine (readsAs_prettyChars level v))
        (forall₂_entryReadsAs_lines level rest)

end

/-- **Reading undoes writing**: the text of a value, one item a line, says what the value means,
whatever blanks come after it. -/
theorem ofJson_pretty (v : Json) (blanks : String) (h : IsBlanks blanks.toList) :
    Document.ofJson (v.pretty ++ blanks) = ⟨v.toDatum, true⟩ := by
  have htext : v.pretty ++ blanks = String.ofList (v.prettyChars 0 ++ blanks.toList) := by
    rw [pretty, String.ofList_append, String.ofList_toList]
  rw [htext]
  exact ((readsAs_prettyChars 0 v).append_blanks h).ofJson

end Strata.Json
