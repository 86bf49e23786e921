import Strata.Text

/-!
Glob patterns over element names.

A pattern is read into pieces by `Glob.parse`; `Glob.Matches` says which names the pieces describe
and `Glob.accepts` decides it. A star stands for any run of characters, a question mark for any one
character, brackets for one character in (or, after an exclamation mark, not in) some ranges, and
two stars that fill a whole component between slashes for any number of whole components. All else
stands for itself; nothing can be escaped.
-/

namespace Strata.Glob

/-! ### Pieces and what they describe -/

/-- A piece of a pattern. -/
inductive Piece where
  | char (c : Char)
  | anyChar
  /-- A character in one of the ranges, both ends included. -/
  | within (ranges : List (Char × Char))
  /-- A character in none of the ranges. -/
  | outside (ranges : List (Char × Char))
  /-- Any run of characters. -/
  | run
  /-- Any number of whole components. -/
  | components
  deriving DecidableEq

namespace Piece

/-- Whether a character lies in one of the ranges. -/
def inRanges (ranges : List (Char × Char)) (c : Char) : Bool :=
  ranges.any fun r => decide (r.1 ≤ c) && decide (c ≤ r.2)

/-- Whether a piece describes one single character, and this one. -/
def admits : Piece → Char → Bool
  | char d, c => c == d
  | anyChar, _ => true
  | within ranges, c => inRanges ranges c
  | outside ranges, c => !inRanges ranges c
  | run, _ => false
  | components, _ => false

end Piece

/-- The names that a list of pieces describes. Components end with a slash or with the name. -/
inductive Matches : List Piece → List Char → Prop where
  | nil : Matches [] []
  | cons {p ps c s} : p.admits c = true → Matches ps s → Matches (p :: ps) (c :: s)
  | run {ps s} (t : List Char) : Matches ps s → Matches (.run :: ps) (t ++ s)
  | noComponent {ps s} : Matches ps s → Matches (.components :: ps) s
  | components {ps s} (t : List Char) : Matches ps s → Matches (.components :: ps) (t ++ '/' :: s)
  | allComponents {ps} (t : List Char) : Matches ps [] → Matches (.components :: ps) t

/-! ### Deciding a match

For a name and some pieces, the table of the name holds one truth value for each rest of the name,
the whole name first and the empty rest last: whether the pieces describe that rest. -/

/-- The table of a piece for one character, given the table of the pieces after it. -/
def singleTable (p : Piece) : List Char → List Bool → List Bool
  | c :: s, _ :: rest => (p.admits c && rest.headD false) :: singleTable p s rest
  | _, _ => [false]

/-- The table of a star, given the table of the pieces after it. -/
def runTable : List Bool → List Bool
  | [] => []
  | b :: rest =>
    let later := runTable rest
    (b || later.headD false) :: later

/-- For each rest of the name, whether the pieces after it describe what follows some slash. -/
def slashTable : List Char → List Bool → List Bool
  | c :: s, _ :: rest =>
    let later := slashTable s rest
    ((c == '/' && rest.headD false) || later.headD false) :: later
  | _, _ => [false]

/-- The table of whole components, given the table of the pieces after it. -/
def componentsTable (s : List Char) (rest : List Bool) : List Bool :=
  let last := rest.getLastD false
  List.zipWith (fun a b => a || b || last) rest (slashTable s rest)

/-- The table of a name. -/
def table (s : List Char) : List Piece → List Bool
  | [] => s.foldr (fun _ rest => false :: rest) [true]
  | .run :: ps => runTable (table s ps)
  | .components :: ps => componentsTable s (table s ps)
  | p :: ps => singleTable p s (table s ps)

/-- Whether the pieces describe a name. -/
def accepts (ps : List Piece) (name : String) : Bool := (table name.toList ps).headD false

/-! ### Reading a pattern -/

/-- What can be wrong with a pattern. -/
inductive Reason where
  /-- Three stars or more in a row. -/
  | tooManyStars
  /-- Two stars that do not fill a component. -/
  | brokenComponent
  /-- An open bracket without its partner. -/
  | openRange
  deriving DecidableEq

/-- What is wrong with a pattern, and near which character. -/
structure Fault where
  position : Nat
  reason : Reason
  deriving DecidableEq

namespace Fault

/-- The wording of a reason. -/
def reasonText : Reason → String
  | .tooManyStars => "wildcards are either regular `*` or recursive `**`"
  | .brokenComponent => "recursive wildcards must form a single path component"
  | .openRange => "invalid range pattern"

/-- The wording. -/
def message (f : Fault) : String :=
  "Pattern syntax error near position " ++ toString f.position ++ ": " ++ reasonText f.reason

end Fault

/-- The ranges between brackets: two characters with a minus between them, or one alone. -/
def ranges : List Char → List (Char × Char)
  | a :: '-' :: b :: rest => (a, b) :: ranges rest
  | a :: rest => (a, a) :: ranges rest
  | [] => []

/-- What stands between brackets, and what comes after them. The first character always stands
between them, even a closing bracket. -/
def bracket? : List Char → Option (List Char × List Char)
  | [] => none
  | first :: rest =>
    match rest.dropWhile (· != ']') with
    | [] => none
    | _ :: after => some (first :: rest.takeWhile (· != ']'), after)

theorem bracket?_length {s inner after : List Char} (h : bracket? s = some (inner, after)) :
    after.length < s.length := by
  cases s with
  | nil => simp [bracket?] at h
  | cons first rest =>
    have hle := (List.dropWhile_sublist (l := rest) (· != ']')).length_le
    simp only [bracket?] at h
    split at h
    · cases h
    · next heq =>
      cases h
      rw [heq] at hle
      simp only [List.length_cons] at hle ⊢
      omega

/-- The pieces of a pattern from `position` on, `before` being the character before it. -/
def parseFrom (before : Option Char) (position : Nat) : List Char → Except Fault (List Piece)
  | [] => pure []
  | '?' :: rest => do return .anyChar :: (← parseFrom (some '?') (position + 1) rest)
  | '*' :: '*' :: '*' :: _ => throw ⟨position + 2, .tooManyStars⟩
  | '*' :: '*' :: rest =>
    if before.all (· == '/') then
      match rest with
      | [] => pure [.components]
      | '/' :: rest => do return .components :: (← parseFrom (some '/') (position + 3) rest)
      | _ => throw ⟨position + 2, .brokenComponent⟩
    else throw ⟨position - 1, .brokenComponent⟩
  | '*' :: rest => do return .run :: (← parseFrom (some '*') (position + 1) rest)
  | '[' :: '!' :: rest =>
    match h : bracket? rest with
    | none => throw ⟨position, .openRange⟩
    | some (inner, after) => do
      have := bracket?_length h
      return .outside (ranges inner) :: (← parseFrom (some ']') (position + 3 + inner.length) after)
  | '[' :: rest =>
    match h : bracket? rest with
    | none => throw ⟨position, .openRange⟩
    | some (inner, after) => do
      have := bracket?_length h
      return .within (ranges inner) :: (← parseFrom (some ']') (position + 2 + inner.length) after)
  | c :: rest => do return .char c :: (← parseFrom (some c) (position + 1) rest)
termination_by s => s.length
decreasing_by all_goals simp_all <;> omega

/-- The pieces of a pattern. -/
def parse (pattern : String) : Except Fault (List Piece) := parseFrom none 0 pattern.toList

end Strata.Glob
