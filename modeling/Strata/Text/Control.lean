import Strata.Text.Digits

/-!
Control characters: those by which a text could steer a terminal, spelled out.

Bell, backspace, form feed, escape and delete are spelled with two hexadecimal digits, and the
controls above ASCII with their code point in braces. Main statement: `isSteering_spellControls`,
none of them is left.
-/

namespace Strata.Text

/-- The control characters of ASCII that steer a terminal: bell, backspace, form feed, escape and
delete. -/
def steeringAscii : List Char := ['\x07', '\x08', '\x0c', '\x1b', '\x7f']

/-- Whether a character is a control character above ASCII. -/
def isHighControl (c : Char) : Bool := decide (0x80 ≤ c.toNat) && decide (c.toNat ≤ 0x9F)

/-- Whether a character steers a terminal. -/
def isSteering (c : Char) : Bool := steeringAscii.contains c || isHighControl c

/-- How a character is spelled. All but those that steer a terminal stand for themselves. -/
def spelled (c : Char) : List Char :=
  if steeringAscii.contains c then '\\' :: 'x' :: hexPair c.toNat
  else if isHighControl c then '\\' :: 'u' :: '\x7b' :: hexPair c.toNat ++ ['\x7d']
  else [c]

/-- The text with the characters spelled out that steer a terminal. -/
def spellControls (s : String) : String := String.ofList (s.toList.flatMap spelled)

theorem isSteering_digitChar {n : Nat} (h : n < 16) : isSteering (Nat.digitChar n) = false := by
  revert n
  decide

theorem isSteering_hexPair {n : Nat} (h : n < 256) {d : Char} (hd : d ∈ hexPair n) :
    isSteering d = false := by
  simp only [hexPair, List.mem_cons, List.not_mem_nil, or_false] at hd
  rcases hd with rfl | rfl
  · exact isSteering_digitChar (by omega)
  · exact isSteering_digitChar (by omega)

theorem isSteering_spelled {c d : Char} (h : d ∈ spelled c) : isSteering d = false := by
  simp only [spelled] at h
  split at h
  · next hc =>
    have hlt : c.toNat < 256 := by
      simp only [steeringAscii, List.contains_iff_mem, List.mem_cons, List.not_mem_nil,
        or_false] at hc
      rcases hc with rfl | rfl | rfl | rfl | rfl <;> decide
    simp only [List.mem_cons] at h
    rcases h with rfl | rfl | h
    · decide
    · decide
    · exact isSteering_hexPair hlt h
  · split at h
    · next hc =>
      simp only [isHighControl, Bool.and_eq_true, decide_eq_true_eq] at hc
      simp only [List.cons_append, List.mem_cons, List.mem_append, List.not_mem_nil,
        or_false] at h
      rcases h with rfl | rfl | rfl | h | rfl
      · decide
      · decide
      · decide
      · exact isSteering_hexPair (by omega) h
      · decide
    · next ha hh =>
      cases List.mem_singleton.1 h
      rw [isSteering, Bool.or_eq_false_iff]
      exact ⟨Bool.eq_false_iff.2 ha, Bool.eq_false_iff.2 hh⟩

/-- No character that steers a terminal is left. -/
theorem isSteering_spellControls {s : String} {d : Char} (h : d ∈ (spellControls s).toList) :
    isSteering d = false := by
  simp only [spellControls, String.toList_ofList, List.mem_flatMap] at h
  obtain ⟨c, -, hd⟩ := h
  exact isSteering_spelled hd

end Strata.Text
