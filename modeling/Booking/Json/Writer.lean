import Booking.Json.Value
/-!
# Writing JSON

A value is written without blanks. In strings a quote, a backslash and the
controls below U+0020 are escaped and every other character stands for itself.
-/
namespace Booking

def Json.escaped (c : Char) : List Char :=
  if c = '"' ∨ c = '\\' then ['\\', c]
  else if c = '\n' then ['\\', 'n']
  else if c = '\r' then ['\\', 'r']
  else if c = '\t' then ['\\', 't']
  else if c = '\x08' then ['\\', 'b']
  else if c = '\x0c' then ['\\', 'f']
  else if c.toNat < 0x20 then
    let ds := Nat.toDigits 16 c.toNat
    ['\\', 'u'] ++ List.replicate (4 - ds.length) '0' ++ ds
  else [c]

def Json.quoted (s : String) : String :=
  String.ofList ('"' :: s.toList.flatMap Json.escaped ++ ['"'])

mutual

/-- Writes a value behind the text that is there already. -/
def Json.write (out : String) : Json → String
  | .null => out ++ "null"
  | .bool true => out ++ "true"
  | .bool false => out ++ "false"
  | .number n => out ++ n.text
  | .string s => out ++ Json.quoted s
  | .array items => Json.writeItems (out.push '[') true items ++ "]"
  | .object members => (Json.writeMembers (out.push '\x7b') true members).push '\x7d'

/-- Writes the items of an array, with a comma before each but the first. -/
def Json.writeItems (out : String) (isFirst : Bool) : List Json → String
  | [] => out
  | v :: vs => Json.writeItems (Json.write (if isFirst then out else out.push ',') v) false vs

/-- Writes the members of an object, with a comma before each but the first. -/
def Json.writeMembers (out : String) (isFirst : Bool) : List (String × Json) → String
  | [] => out
  | (k, v) :: ms =>
    Json.writeMembers
      (Json.write (((if isFirst then out else out.push ',') ++ Json.quoted k).push ':') v) false ms

end

def Json.text (v : Json) : String := Json.write "" v

end Booking
