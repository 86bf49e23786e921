/-!
Text: substrings, pieces and byte order.

Names, descriptions and report lines are `String`s; what the rules ask of them is decided on their
characters. `contains_iff` says that `contains` is the substring relation, `bytes_inj` that the
byte order of `sortLines` tells distinct lines apart, and `sortLines_perm` that sorting neither
loses nor repeats a line.
-/

namespace Strata.Text

/-! ### Substrings -/

/-- Whether `needle` occurs as a run of consecutive characters. -/
def hasRun (needle : List Char) : List Char → Bool
  | [] => needle.isEmpty
  | c :: cs => needle.isPrefixOf (c :: cs) || hasRun needle cs

theorem hasRun_iff {needle s : List Char} : hasRun needle s = true ↔ needle <:+: s := by
  induction s with
  | nil => simp [hasRun]
  | cons c cs ih => simp [hasRun, ih, List.infix_cons_iff]

/-- Whether `needle` is a substring of `s`; the empty text is one of every text. -/
def contains (s needle : String) : Bool := hasRun needle.toList s.toList

theorem contains_iff {s needle : String} :
    contains s needle = true ↔ needle.toList <:+: s.toList := hasRun_iff

/-- What comes after `start` in a text that begins with it. -/
def after? : List Char → List Char → Option (List Char)
  | [], s => some s
  | _ :: _, [] => none
  | a :: start, c :: s => if a = c then after? start s else none

theorem after?_eq_some_iff {start s rest : List Char} :
    after? start s = some rest ↔ s = start ++ rest := by
  induction start generalizing s with
  | nil => simp [after?]
  | cons a start ih => cases s <;> grind [after?]

/-! ### Order by UTF-8 bytes -/

/-- The UTF-8 encoding. -/
def bytes (s : String) : List UInt8 := s.toUTF8.data.toList

theorem bytes_inj {a b : String} : bytes a = bytes b ↔ a = b := by
  constructor
  · intro h
    apply String.toByteArray_inj.1
    exact ByteArray.ext (Array.toList_inj.1 h)
  · rintro rfl; rfl

/-- Whether `a` comes before `b`, or is `b`, in the order of their bytes. -/
def atMost (a b : String) : Bool := decide (bytes a ≤ bytes b)

/-- The lines in ascending byte order; equal lines stay adjacent and are all kept. -/
def sortLines (lines : List String) : List String := lines.mergeSort atMost

theorem sortLines_perm (lines : List String) : (sortLines lines).Perm lines :=
  List.mergeSort_perm lines atMost

/-! ### Joining -/

/-- The texts with `separator` between neighbours. -/
def join (separator : String) (parts : List String) : String := separator.intercalate parts

/-- A bracketed list of names, such as `[domain, infra]`. -/
def bracketed (names : List String) : String := "[" ++ join ", " names ++ "]"

/-- The pieces between the separators: one more than there are separators, empty ones too. -/
def pieces (separator : Char) (s : String) : List String :=
  (s.toList.splitOn separator).map String.ofList

end Strata.Text
