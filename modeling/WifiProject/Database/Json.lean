import WifiProject.Lib.Decimal

/-!
JSON elements as the parser library hands them over, and the accessors of
`JsonParser` that never throw.
-/

namespace WifiProject.Database

open Lib.Decimal

inductive JsonElement where
  | null
  | string (value : String)
  | number (literal : String)
  | boolean (value : Bool)
  | array (elements : List JsonElement)
  | object (members : List (String × JsonElement))

/-- The digits, the fraction and the exponent of an unsigned number literal. -/
def splitLiteral (literal : List Char) : List Char × List Char × Int :=
  let (digits, rest) := literal.span Char.isDigit
  let (fraction, rest) := match rest with
    | '.' :: rest => rest.span Char.isDigit
    | rest => ([], rest)
  let exponent := match rest with
    | _ :: '-' :: digits => -((parseDigits digits).getD 0 : Int)
    | _ :: '+' :: digits => ((parseDigits digits).getD 0 : Int)
    | _ :: digits => ((parseDigits digits).getD 0 : Int)
    | [] => 0
  (digits, fraction, exponent)

/-- The decimal value of an unsigned literal, cut off at the point. -/
def truncateLiteral (literal : List Char) : Nat :=
  let (digits, fraction, exponent) := splitLiteral literal
  let mantissa := (parseDigits (digits ++ fraction)).getD 0
  let scale := exponent - fraction.length
  if 0 ≤ scale then mantissa * 10 ^ scale.toNat else mantissa / 10 ^ (-scale).toNat

/-- `LazilyParsedNumber.intValue()`: the low 32 bits of the integer part. -/
def intValue (literal : String) : Int :=
  match literal.toList with
  | '-' :: literal => Int.bmod (-(truncateLiteral literal : Int)) (2 ^ 32)
  | literal => Int.bmod (truncateLiteral literal) (2 ^ 32)

namespace JsonElement

/-- `json[key]`. -/
def get? (members : List (String × JsonElement)) (key : String) : Option JsonElement :=
  (members.find? (·.1 = key)).map Prod.snd

end JsonElement

/-- `asString` takes numbers and booleans too. -/
def optString : Option JsonElement → Option String
  | some (.string value) => some value
  | some (.number literal) => some literal
  | some (.boolean value) => some (if value then "true" else "false")
  | _ => none

def optBoolean : Option JsonElement → Option Bool
  | some (.boolean value) => some value
  | _ => none

def optInt : Option JsonElement → Option Int
  | some (.string value) => parseInt value
  | some (.number literal) => some (intValue literal)
  | _ => none

def optObject : Option JsonElement → Option (List (String × JsonElement))
  | some (.object members) => some members
  | _ => none

def optArray : Option JsonElement → Option (List JsonElement)
  | some (.array elements) => some elements
  | _ => none

end WifiProject.Database
