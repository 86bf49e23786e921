import Mathlib.Data.List.Forall2
import Mathlib.Tactic.IntervalCases
import Mathlib.Tactic.Lemma
import Strata.Json.Reader

/-!
Reading what was written. A reader takes one character at a time and knows nothing of the text
around it, so a text reads as a value if every reader that waits for one ends up with it, whatever
is open around it (`ReadsAs`). Only a number has no end of its own: it lasts until a character comes
that cannot belong to it, and up to there two readers may differ (`Reader.Agree`).

* `readsAs_quote`, `readsAs_digits`: quoted strings and decimal numbers;
* `readsAs_list`, `readsAs_table`: lists and tables of what reads as something;
* `ofJson_compact`: every value is read back from its text without blanks.
-/

namespace Strata.Json

/-! ### Readers before and after a value -/

namespace Reader

/-- A reader that waits for a value, in the given lists and tables. -/
def waiting (opened : Bool) (frames : List Frame) (root : Option Datum) : Reader :=
  ⟨.between, .value opened, frames, root, false⟩

/-- The innermost of the open lists and tables has a place for a value: no table without a key. -/
def HasPlace (frames : List Frame) : Prop := ∀ entries fs, frames ≠ .table entries none :: fs

/-- What a reader has accepted depends on what is open, not on what it waited for. -/
lemma accept_eq_waiting {frames : List Frame} (h : HasPlace frames) (lexeme : Lexeme)
    (expects : Expects) (root : Option Datum) (opened : Bool) (d : Datum) :
    accept ⟨lexeme, expects, frames, root, false⟩ d = (waiting opened frames root).accept d := by
  match frames with
  | [] => rfl
  | .list _ :: _ => rfl
  | .table _ (some _) :: _ => rfl
  | .table _ none :: _ => exact absurd rfl (h _ _)

/-- After a value a reader is between two lexemes and has not stopped. -/
lemma exists_accept_waiting_eq {frames : List Frame} (h : HasPlace frames) (opened : Bool)
    (root : Option Datum) (d : Datum) :
    ∃ expects frames' root',
      (waiting opened frames root).accept d = ⟨.between, expects, frames', root', false⟩ := by
  match frames with
  | [] => exact ⟨_, _, _, rfl⟩
  | .list _ :: _ => exact ⟨_, _, _, rfl⟩
  | .table _ (some _) :: _ => exact ⟨_, _, _, rfl⟩
  | .table _ none :: _ => exact absurd rfl (h _ _)

/-- A character that belongs to no number. -/
structure EndsNumber (c : Char) : Prop where
  isDigit_eq : c.isDigit = false
  afterWhole_eq : Numeral.afterWhole c = none

lemma endsNumber_comma : EndsNumber ',' := ⟨rfl, rfl⟩

lemma endsNumber_closeBracket : EndsNumber ']' := ⟨rfl, rfl⟩

lemma endsNumber_closeBrace : EndsNumber closeBrace := ⟨rfl, rfl⟩

/-- Two readers that differ at most in a number of which the end has not come. -/
structure Agree (r s : Reader) : Prop where
  feed_eq : ∀ c, EndsNumber c → r.feed c = s.feed c
  finish_eq : r.finish = s.finish

lemma Agree.of_eq {r s : Reader} (h : r = s) : Agree r s := ⟨fun _ _ => by rw [h], by rw [h]⟩

end Reader

open Reader

/-- A text reads as a datum: after the text, every reader that waited for a value has accepted the
datum. -/
def ReadsAs (text : List Char) (d : Datum) : Prop :=
  ∀ opened frames root, HasPlace frames →
    (text.foldl feed (waiting opened frames root)).Agree ((waiting opened frames root).accept d)

/-! ### Strings -/

lemma hexValue?_digitChar {n : Nat} (h : n < 16) : Text.hexValue? (Nat.digitChar n) = some n := by
  revert n
  decide

/-- A code unit below the surrogates is a character of its own. -/
lemma Quote.pushUnit_of_lt {u : Nat} (h : u < 0xD800) (q : Quote) :
    q.pushUnit u = q.push (Char.ofNat u) := by
  rw [pushUnit, if_neg (by omega), if_neg (by omega)]

/-- A character is spelled by a letter after a backslash, by its number if it is a control character
without a letter, or by itself. -/
lemma escaped_cases (c : Char) :
    (∃ e, e ≠ 'u' ∧ Quote.unescape? e = some c ∧ escaped c = ['\\', e]) ∨
      (c.toNat < 0x20 ∧ escaped c = '\\' :: 'u' :: '0' :: '0' :: Text.hexPair c.toNat) ∨
      (c ≠ '"' ∧ c ≠ '\\' ∧ 0x20 ≤ c.toNat ∧ escaped c = [c]) := by
  rw [escaped]
  split_ifs with h1 h2 h3 h4 h5 h6 h7 h8
  · exact .inl ⟨'"', by decide, by subst c; rfl, rfl⟩
  · exact .inl ⟨'\\', by decide, by subst c; rfl, rfl⟩
  · exact .inl ⟨'b', by decide, by subst c; rfl, rfl⟩
  · exact .inl ⟨'t', by decide, by subst c; rfl, rfl⟩
  · exact .inl ⟨'n', by decide, by subst c; rfl, rfl⟩
  · exact .inl ⟨'f', by decide, by subst c; rfl, rfl⟩
  · exact .inl ⟨'r', by decide, by subst c; rfl, rfl⟩
  · exact .inr (.inl ⟨h8, rfl⟩)
  · exact .inr (.inr ⟨h1, h2, by omega, rfl⟩)

section Strings

variable {r : Reader} (hr : r.stopped = false)

include hr

/-- An open string takes one more character from its spelling. -/
lemma foldl_feed_escaped (chars : List Char) (c : Char) :
    (escaped c).foldl feed { r with lexeme := .quote ⟨chars, false, none, .plain⟩ } =
      { r with lexeme := .quote ⟨c :: chars, false, none, .plain⟩ } := by
  rcases escaped_cases c with ⟨e, hu, he, h⟩ | ⟨hlt, h⟩ | ⟨hquote, hbackslash, hle, h⟩
  · simp [h, feed, Quote.feed, Quote.push, hr, hu, he]
  · -- the four digits are those of a code unit of its own
    have hzero : Text.hexValue? '0' = some 0 := by decide
    have hhigh := hexValue?_digitChar (n := c.toNat / 16) (by omega)
    have hlow := hexValue?_digitChar (n := c.toNat % 16) (by omega)
    have hunit : c.toNat / 16 * 16 + c.toNat % 16 = c.toNat := by omega
    have hpush := Quote.pushUnit_of_lt (u := c.toNat) (by omega)
    simp [h, feed, Quote.feed, Quote.push, Text.hexPair, hr, hzero, hhigh, hlow, hunit, hpush]
  · have hplain : ¬ c.toNat < 0x20 := by omega
    simp [h, feed, Quote.feed, Quote.push, hr, hquote, hbackslash, hplain]

lemma foldl_feed_flatMap_escaped (chars s : List Char) :
    (s.flatMap escaped).foldl feed { r with lexeme := .quote ⟨chars, false, none, .plain⟩ } =
      { r with lexeme := .quote ⟨s.reverse ++ chars, false, none, .plain⟩ } := by
  induction s generalizing chars with
  | nil => rfl
  | cons c s ih =>
      rw [List.flatMap_cons, List.foldl_append, foldl_feed_escaped hr, ih, List.reverse_cons,
        List.append_assoc, List.singleton_append]

end Strings

/-- Whether a string may come next. -/
def Expects.takesString : Expects → Bool
  | value _ => true
  | key _ => true
  | _ => false

/-- Where a string may come, a quoted one is read as such. -/
lemma foldl_feed_quote {expects : Expects} (h : expects.takesString = true)
    (frames : List Frame) (root : Option Datum) (s : String) :
    (quote s.toList).foldl feed ⟨.between, expects, frames, root, false⟩ =
      acceptString ⟨.between, expects, frames, root, false⟩ (some s) := by
  have hopen : feed ⟨.between, expects, frames, root, false⟩ '"' =
      ⟨.quote ⟨[], false, none, .plain⟩, expects, frames, root, false⟩ := by
    cases expects with
    | value b => rfl
    | key b => rfl
    | _ => simp [Expects.takesString] at h
  have hinside := foldl_feed_flatMap_escaped (r := ⟨.between, expects, frames, root, false⟩) rfl []
    s.toList
  rw [List.append_nil] at hinside
  rw [quote, List.cons_append, List.foldl_cons, hopen, List.foldl_append, hinside]
  simp [feed, Quote.feed, Quote.text?]

lemma readsAs_quote (s : String) : ReadsAs (quote s.toList) (.string s) := by
  intro opened frames root _
  refine .of_eq ?_
  rw [waiting, foldl_feed_quote rfl]
  rfl

/-! ### Numbers -/

/-- How far a number is read after the digits of `n`. -/
def Numeral.ofNat (n : Nat) : Numeral := if n = 0 then .zero false else .whole false n

lemma foldl_feed_digits (opened : Bool) (frames : List Frame) (root : Option Datum) (n : Nat) :
    (digits n).foldl feed (waiting opened frames root) =
      ⟨.number (.ofNat n), .value opened, frames, root, false⟩ := by
  induction n using Nat.strongRecOn with
  | ind n ih =>
      rw [digits, Nat.toDigits_eq_if (by decide)]
      split_ifs with hn
      · interval_cases n <;> rfl
      · have hlast : n % 10 < 10 := by omega
        have hfront : Numeral.ofNat (n / 10) = .whole false (n / 10) := if_neg (by omega)
        have hwhole : Numeral.ofNat n = .whole false n := if_neg (by omega)
        have ih' := ih (n / 10) (by omega)
        rw [digits] at ih'
        rw [List.foldl_append, ih', hfront, hwhole]
        simp [feed, Numeral.extend, Nat.isDigit_digitChar, Nat.toNat_digitChar_of_lt_ten hlast,
          hlast]
        omega

/-- A number ends where the text ends, or where a character comes that does not belong to it. -/
lemma readsAs_digits (n : Nat) : ReadsAs (digits n) (.natural n) := by
  intro opened frames root hplace
  rw [foldl_feed_digits]
  have haccept := accept_eq_waiting hplace .between (.value opened) root opened (.natural n)
  obtain ⟨expects, frames', root', heq⟩ := exists_accept_waiting_eq hplace opened root (.natural n)
  constructor
  · intro c hc
    have hextend : (Numeral.ofNat n).extend c = none := by
      rw [Numeral.ofNat]
      split_ifs <;> simp [Numeral.extend, hc.isDigit_eq, hc.afterWhole_eq]
    have hvalue : (Numeral.ofNat n).value? (some c) = some (.natural n) := by
      rw [Numeral.ofNat]
      split_ifs with hn <;> simp [Numeral.value?, hc.isDigit_eq, hn]
    simp [feed, hextend, settle, hvalue, haccept, heq]
  · have hvalue : (Numeral.ofNat n).value? none = some (.natural n) := by
      rw [Numeral.ofNat]
      split_ifs with hn <;> simp [Numeral.value?, hn]
    simp [finish, settle, hvalue, haccept, heq]

/-! ### Lists -/

lemma foldl_feed_items {texts : List (List Char)} {ds : List Datum}
    (h : List.Forall₂ ReadsAs texts ds) (opened : Bool) (hopened : texts = [] → opened = true)
    {frames : List Frame} (hplace : HasPlace frames) (items : List Datum) (root : Option Datum) :
    (([','].intercalate texts).foldl feed (waiting opened (.list items :: frames) root)).feed ']' =
      (waiting false frames root).accept (.list (items.reverse ++ ds) true) := by
  induction h generalizing opened items with
  | nil =>
      obtain rfl := hopened rfl
      have haccept := accept_eq_waiting hplace .between (.value true) root false
        (.list items.reverse true)
      rw [List.append_nil, ← haccept]
      rfl
  | @cons text d texts ds htext htexts ih =>
      have hitem := htext opened (.list items :: frames) root nofun
      cases htexts with
      | nil =>
          have haccept := accept_eq_waiting hplace .between .comma root false
            (.list (d :: items).reverse true)
          rw [List.intercalate_singleton, hitem.feed_eq _ endsNumber_closeBracket,
            ← List.reverse_cons, ← haccept]
          rfl
      | @cons text' d' texts ds htext' htexts =>
          have hrest := ih false nofun (d :: items)
          rw [List.intercalate_cons_cons, List.append_assoc, List.foldl_append,
            List.singleton_append, List.foldl_cons, hitem.feed_eq _ endsNumber_comma]
          rw [List.reverse_cons, List.append_assoc, List.singleton_append] at hrest
          exact hrest

/-- Texts with commas between them, in brackets, read as a list. -/
lemma readsAs_list {texts : List (List Char)} {ds : List Datum}
    (h : List.Forall₂ ReadsAs texts ds) :
    ReadsAs ('[' :: [','].intercalate texts ++ [']']) (.list ds true) := by
  intro opened frames root hplace
  refine .of_eq ?_
  have hitems := foldl_feed_items h true (fun _ => rfl) hplace [] root
  rw [List.cons_append, List.foldl_cons, List.foldl_append]
  exact hitems.trans (accept_eq_waiting hplace _ _ _ _ _)

/-! ### Tables -/

/-- A text reads as an entry: after the text, every table that waited for a key has the entry. -/
def EntryReadsAs (text : List Char) (e : Option String × Datum) : Prop :=
  ∀ opened entries frames root,
    (text.foldl feed ⟨.between, .key opened, .table entries none :: frames, root, false⟩).Agree
      ⟨.between, .comma, .table (e :: entries) none :: frames, root, false⟩

lemma ReadsAs.entry {text : List Char} {d : Datum} (h : ReadsAs text d) (key : String) :
    EntryReadsAs (quote key.toList ++ ':' :: text) (some key, d) := by
  intro opened entries frames root
  rw [List.foldl_append, foldl_feed_quote rfl, List.foldl_cons]
  exact h false (.table entries (some (some key)) :: frames) root nofun

lemma foldl_feed_entries {texts : List (List Char)} {es : List (Option String × Datum)}
    (h : List.Forall₂ EntryReadsAs texts es) (opened : Bool) (hopened : texts = [] → opened = true)
    {frames : List Frame} (hplace : HasPlace frames) (entries : List (Option String × Datum))
    (root : Option Datum) :
    (([','].intercalate texts).foldl feed
        ⟨.between, .key opened, .table entries none :: frames, root, false⟩).feed closeBrace =
      (waiting false frames root).accept (.table (entries.reverse ++ es) true) := by
  induction h generalizing opened entries with
  | nil =>
      obtain rfl := hopened rfl
      have haccept := accept_eq_waiting hplace .between (.key true) root false
        (.table entries.reverse true)
      rw [List.append_nil, ← haccept]
      rfl
  | @cons text e texts es htext htexts ih =>
      have hentry := htext opened entries frames root
      cases htexts with
      | nil =>
          have haccept := accept_eq_waiting hplace .between .comma root false
            (.table (e :: entries).reverse true)
          rw [List.intercalate_singleton, hentry.feed_eq _ endsNumber_closeBrace,
            ← List.reverse_cons, ← haccept]
          rfl
      | @cons text' e' texts es htext' htexts =>
          have hrest := ih false nofun (e :: entries)
          rw [List.intercalate_cons_cons, List.append_assoc, List.foldl_append,
            List.singleton_append, List.foldl_cons, hentry.feed_eq _ endsNumber_comma]
          rw [List.reverse_cons, List.append_assoc, List.singleton_append] at hrest
          exact hrest

/-- Entries with commas between them, in braces, read as a table. -/
lemma readsAs_table {texts : List (List Char)} {es : List (Option String × Datum)}
    (h : List.Forall₂ EntryReadsAs texts es) :
    ReadsAs (openBrace :: [','].intercalate texts ++ [closeBrace]) (.table es true) := by
  intro opened frames root hplace
  refine .of_eq ?_
  have hentries := foldl_feed_entries h true (fun _ => rfl) hplace [] root
  rw [List.cons_append, List.foldl_cons, List.foldl_append]
  exact hentries.trans (accept_eq_waiting hplace _ _ _ _ _)

/-! ### Whole texts -/

/-- A text that reads as a datum is a document that says it. -/
lemma ReadsAs.ofJson {text : List Char} {d : Datum} (h : ReadsAs text d) :
    Document.ofJson (String.ofList text) = ⟨d, true⟩ := by
  rw [Document.ofJson, String.toList_ofList]
  exact (h false [] none nofun).finish_eq

lemma toData_eq_map (items : List Json) : toData items = items.map toDatum := by
  induction items with
  | nil => rfl
  | cons v rest ih => rw [toData, ih, List.map_cons]

lemma compactItems_eq (items : List Json) :
    compactItems items = [','].intercalate (items.map compactChars) := by
  induction items with
  | nil => rfl
  | cons v rest ih =>
      cases rest with
      | nil => simp [compactItems]
      | cons w rest => simp [compactItems, ih]

lemma compactMembers_eq (members : List (String × Json)) :
    compactMembers members =
      [','].intercalate (members.map fun m => quote m.1.toList ++ ':' :: m.2.compactChars) := by
  induction members with
  | nil => rfl
  | cons m rest ih =>
      cases rest with
      | nil => simp [compactMembers]
      | cons m' rest => simp [compactMembers, ih]

mutual

/-- The induction over the value. -/
lemma readsAs_compactChars : ∀ v : Json, ReadsAs v.compactChars v.toDatum
  | natural n => by
      rw [compactChars, toDatum]
      exact readsAs_digits n
  | string s => by
      rw [compactChars, toDatum]
      exact readsAs_quote s
  | array items => by
      rw [compactChars, toDatum, compactItems_eq]
      exact readsAs_list (forall₂_readsAs_items items)
  | object members => by
      rw [compactChars, toDatum, compactMembers_eq]
      exact readsAs_table (forall₂_entryReadsAs_members members)

/-- The induction over the items of an array. -/
lemma forall₂_readsAs_items : ∀ items : List Json,
    List.Forall₂ ReadsAs (items.map compactChars) (toData items)
  | [] => .nil
  | v :: rest => .cons (readsAs_compactChars v) (forall₂_readsAs_items rest)

/-- The induction over the members of an object. -/
lemma forall₂_entryReadsAs_members : ∀ members : List (String × Json),
    List.Forall₂ EntryReadsAs (members.map fun m => quote m.1.toList ++ ':' :: m.2.compactChars)
      (toEntries members)
  | [] => .nil
  | (key, v) :: rest =>
      .cons ((readsAs_compactChars v).entry key) (forall₂_entryReadsAs_members rest)

end

/-- **Reading undoes writing**: the text of a value, without blanks, says what the value means, and
nothing comes after it. -/
theorem ofJson_compact (v : Json) : Document.ofJson v.compact = ⟨v.toDatum, true⟩ :=
  (readsAs_compactChars v).ofJson

end Strata.Json
