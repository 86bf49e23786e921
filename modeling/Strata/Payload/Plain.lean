import Strata.Payload

/-!
Plain payloads: numbers, truth values, texts, and objects about which there is nothing to say. They
are the other kinds wherever none are given.
-/

namespace Strata

/-- The kinds of plain values. -/
inductive PlainKind where
  | natural32
  | integer64
  | truth
  | text
  /-- An object about which there is nothing to say. -/
  | nothing
  deriving DecidableEq

namespace PlainKind

/-- The type of the values of a kind. -/
def Carrier : PlainKind → Type
  | natural32 => UInt32
  | integer64 => Int64
  | truth => Bool
  | text => String
  | nothing => Unit

instance : Kinds where
  Other := PlainKind
  Carrier := Carrier
  decidableEqOther := inferInstance

end PlainKind

namespace PayloadKind

@[match_pattern] abbrev natural32 : PayloadKind := .other PlainKind.natural32

@[match_pattern] abbrev integer64 : PayloadKind := .other PlainKind.integer64

@[match_pattern] abbrev truth : PayloadKind := .other PlainKind.truth

@[match_pattern] abbrev text : PayloadKind := .other PlainKind.text

@[match_pattern] abbrev nothing : PayloadKind := .other PlainKind.nothing

end PayloadKind

namespace Payload

@[match_pattern] abbrev natural32 (n : UInt32) : Payload := .other PlainKind.natural32 n

@[match_pattern] abbrev integer64 (n : Int64) : Payload := .other PlainKind.integer64 n

@[match_pattern] abbrev truth (b : Bool) : Payload := .other PlainKind.truth b

@[match_pattern] abbrev text (s : String) : Payload := .other PlainKind.text s

@[match_pattern] abbrev nothing : Payload := .other PlainKind.nothing ()

end Payload

end Strata
