import Strata.Proofs.Json.Indented
import Strata.Report.Listing

/-!
What a machine finds in the JSON listing. The listing is a record of two counts and of the reports
themselves, and each report is a record of its own (`Report.IsToldBy`, `Report.AreToldBy`). Such
records tell everything there is about the reports, so a listing is made of one list of reports
only. Main statement: `ofJson_allToJson`.
-/

namespace Strata

namespace Datum

/-- The value under a key. -/
def get? (key : String) : Datum → Option Datum
  | table entries _ => entries.lookup (some key)
  | _ => none

/-- A table with an end in which no key comes twice. -/
def IsRecord (d : Datum) : Prop :=
  ∃ entries, d = table entries true ∧ (entries.map Prod.fst).Nodup

end Datum

lemma Priority.key_inj {p q : Priority} : p.key = q.key ↔ p = q := by
  constructor
  · intro h
    have hread : parse? p.key = parse? q.key := congrArg parse? h
    rwa [parse?_key, parse?_key, Option.some.injEq] at hread
  · rintro rfl
    rfl

namespace Report

attribute [ext] Messages Report

/-! ### One report -/

/-- A record tells a report. The note has a key iff there is one. -/
structure IsToldBy (r : Report) (d : Datum) : Prop where
  isRecord : d.IsRecord
  rule_eq : d.get? "rule" = some (.string r.rule)
  priority_eq : d.get? "priority" = some (.string r.priority.key)
  details_eq : d.get? "details" = some (.list (r.details.map .string) true)
  note_eq : d.get? "information_about_number_of_violations" = r.messages.note.map .string

lemma toData_map_string (lines : List String) :
    Json.toData (lines.map .string) = lines.map .string := by
  rw [Json.toData_eq_map, List.map_map]
  exact List.map_congr_left fun line _ => rfl

lemma isToldBy_toDatum (r : Report) : r.IsToldBy r.toJson.toDatum where
  isRecord := by
    refine ⟨_, rfl, ?_⟩
    cases r.messages.note <;> simp [Json.toEntries]
  rule_eq := rfl
  priority_eq := rfl
  details_eq := congrArg (fun ds => some (Datum.list ds true)) (toData_map_string r.details)
  note_eq := by
    rw [toJson]
    cases r.messages.note <;> rfl

/-- Nothing of a report is lost in the record that tells it. -/
lemma IsToldBy.unique {r r' : Report} {d : Datum} (h : r.IsToldBy d) (h' : r'.IsToldBy d) :
    r = r' := by
  have hstring : Function.Injective Datum.string := fun _ _ => Datum.string.inj
  have hrule : r.rule = r'.rule := hstring (Option.some.inj (h.rule_eq.symm.trans h'.rule_eq))
  have hpriority : r.priority = r'.priority :=
    Priority.key_inj.mp (hstring (Option.some.inj (h.priority_eq.symm.trans h'.priority_eq)))
  have hdetails : r.messages.lines = r'.messages.lines := by
    have hlist := Option.some.inj (h.details_eq.symm.trans h'.details_eq)
    exact hstring.list_map (Datum.list.inj hlist).1
  have hnote : r.messages.note = r'.messages.note :=
    Option.map_injective hstring (h.note_eq.symm.trans h'.note_eq)
  exact Report.ext hrule hpriority (Messages.ext hdetails hnote)

/-! ### All reports -/

/-- A record tells some reports: how many there are, how many of them have lines, and all of them,
in order. -/
structure AreToldBy (rs : List Report) (d : Datum) : Prop where
  isRecord : d.IsRecord
  evaluated_eq : d.get? "rules_evaluated" = some (.natural rs.length)
  violated_eq : d.get? "rules_violated" = some (.natural (rs.countP fun r => r.details ≠ []))
  reports_eq : ∃ ds, d.get? "reports" = some (.list ds true) ∧ List.Forall₂ IsToldBy rs ds

lemma areToldBy_toDatum (rs : List Report) : AreToldBy rs (allToJson rs).toDatum where
  isRecord := ⟨_, rfl, by simp [Json.toEntries]⟩
  evaluated_eq := rfl
  violated_eq := by
    have hlines : ∀ r ∈ rs, (!r.isEmpty) = decide (r.details ≠ []) := fun r _ => by
      rw [Bool.eq_iff_iff]
      simp [isEmpty]
    rw [List.countP_eq_length_filter, ← List.filter_congr hlines]
    rfl
  reports_eq := by
    refine ⟨_, rfl, ?_⟩
    rw [Json.toData_eq_map, List.map_map, List.forall₂_map_right_iff]
    exact List.forall₂_same.mpr fun r _ => isToldBy_toDatum r

lemma AreToldBy.unique {rs rs' : List Report} {d : Datum} (h : AreToldBy rs d)
    (h' : AreToldBy rs' d) : rs = rs' := by
  obtain ⟨ds, hds, htold⟩ := h.reports_eq
  obtain ⟨ds', hds', htold'⟩ := h'.reports_eq
  obtain rfl : ds = ds' := (Datum.list.inj (Option.some.inj (hds.symm.trans hds'))).1
  have hunique : Relator.LeftUnique IsToldBy := fun _ _ _ => IsToldBy.unique
  exact hunique.forall₂ htold htold'

/-- Texts that are read as what their reports mean have their reports in common, if anything. -/
lemma eq_iff_of_ofJson {write : List Report → String}
    (hwrite : ∀ rs, Document.ofJson (write rs) = ⟨(allToJson rs).toDatum, true⟩)
    (rs rs' : List Report) : write rs = write rs' ↔ rs = rs' := by
  constructor
  · intro h
    have hread := congrArg Document.ofJson h
    rw [hwrite, hwrite] at hread
    have hdatum : (allToJson rs).toDatum = (allToJson rs').toDatum := (Document.mk.inj hread).1
    exact (areToldBy_toDatum rs).unique (hdatum ▸ areToldBy_toDatum rs')
  · rintro rfl
    rfl

/-- The listing is read as what the reports mean, with the end of its last line. -/
lemma ofJson_render (rs : List Report) :
    Document.ofJson (Listing.render rs .json) = ⟨(allToJson rs).toDatum, true⟩ :=
  Json.ofJson_pretty (allToJson rs) "\n" (Json.isBlanks_line 0)

/-- **The JSON listing is lossless**: whatever the reports are, it is a JSON text that tells them,
and no other reports have the same. It may be printed with the end of a line after it. -/
theorem ofJson_allToJson (rs : List Report) :
    (∃ d, Document.ofJson (allToJson rs).pretty = ⟨d, true⟩ ∧
      Document.ofJson (Listing.render rs .json) = ⟨d, true⟩ ∧ AreToldBy rs d) ∧
      ∀ rs', ((allToJson rs).pretty = (allToJson rs').pretty ↔ rs = rs') ∧
        (Listing.render rs .json = Listing.render rs' .json ↔ rs = rs') := by
  have htext : ∀ rs, Document.ofJson (allToJson rs).pretty = ⟨(allToJson rs).toDatum, true⟩ := by
    intro rs
    have h := Json.ofJson_pretty (allToJson rs) "" nofun
    rwa [String.append_empty] at h
  exact ⟨⟨_, htext rs, ofJson_render rs, areToldBy_toDatum rs⟩, fun rs' =>
    ⟨eq_iff_of_ofJson htext rs rs', eq_iff_of_ofJson ofJson_render rs rs'⟩⟩

end Report

end Strata
