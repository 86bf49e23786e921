/-!
Data: what a document says, whichever notation it is written in.

A reader that meets a fault does not give up what it has read: it hands over the tree up to that
place, with the open lists and tables marked as such. So the one who makes sense of the tree can
complain about the first thing that is wrong, be it the meaning or the notation.
-/

namespace Strata

/-- A tree of data. In a list or table that is not `closed` the text ended, or went wrong, before
the end of it. -/
inductive Datum where
  /-- No value can be read here. -/
  | fault
  | null
  | bool (value : Bool)
  /-- A number without sign, point and exponent. -/
  | natural (value : Nat)
  /-- Any other number. -/
  | amount
  /-- A date or a time of day. -/
  | moment
  | string (value : String)
  /-- A string with half of a surrogate pair in it, which is no text. -/
  | garbled
  | list (items : List Datum) (closed : Bool)
  /-- A table. A key is `none` if it is no text. -/
  | table (entries : List (Option String × Datum)) (closed : Bool)

namespace Datum

/-- Whether a value has an end. A fault leaves everything open that it is in, so one look at the
outermost level tells whether there is a fault anywhere below. -/
def isComplete : Datum → Bool
  | fault => false
  | list _ closed => closed
  | table _ closed => closed
  | _ => true

end Datum

/-- What a text says, and whether nothing but blanks follows its end. -/
structure Document where
  root : Datum
  complete : Bool

end Strata
