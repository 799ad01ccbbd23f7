import Booking.Record.Error
import Booking.Time.Instant
/-!
# Reading records

A record is written as an object or as an array of its fields in the order of
their declaration. The fields of an object are read in ascending order of their
keys, which decides which of two bad values is reported; a field that is missing
is reported only after all that are there have been read.
-/
namespace Booking

abbrev Record.Reader (α : Type) := Json → Except DataError α

def Record.mismatch {α : Type} (v : Json) (expected : String) : Except DataError α :=
  .error (.wrongType (DataError.describe v) expected)

def Record.string : Record.Reader String
  | .string s => .ok s
  | v => Record.mismatch v "a string"

def Record.integer (least greatest : Int) (expected : String) : Record.Reader Int
  | .number (.integer i) =>
    if least ≤ i ∧ i ≤ greatest then .ok i
    else .error (.wrongValue (DataError.describe (Json.ofInt i)) expected)
  | v => Record.mismatch v expected

def Record.count : Record.Reader Nat := fun v => do
  let i ← Record.integer 0 4294967295 "u32" v
  return i.toNat

def Record.instant : Record.Reader Int :=
  Record.integer Instant.least Instant.greatest "i64"

def Record.listOf {α : Type} (read : Record.Reader α) : Record.Reader (List α)
  | .array vs => vs.mapM read
  | v => Record.mismatch v "a sequence"

/-- Reads a text by a reader with errors of its own. -/
def Record.parsed {α ε : Type} (parse : String → Except ε α) (cause : ε → DataError) :
    Record.Reader α := fun v => do
  let s ← Record.string v
  (parse s).mapError cause

def Record.ident : Record.Reader Ident := Record.parsed Ident.parse .ident

/-- Reads a member of an object, if it is there. A member that is there twice is refused. -/
def Record.member? {α : Type} (ms : List (String × Json)) (key : String)
    (read : Record.Reader α) : Except DataError (Option α) :=
  match Json.valuesOf key ms with
  | [] => .ok none
  | [v] => (read v).map some
  | _ => .error (.repeated key)

def Record.require {α : Type} (key : String) : Option α → Except DataError α
  | some a => .ok a
  | none => .error (.missing key)

/-- What a record is called, and the number of its fields. -/
structure Record.Form where
  name : String
  size : Nat

def Record.Form.expected (f : Record.Form) : String := "struct " ++ f.name

/-- Reads an item of an array that has to be there. -/
def Record.Form.item {α : Type} (f : Record.Form) (vs : List Json) (i : Nat)
    (read : Record.Reader α) : Except DataError α :=
  match vs[i]? with
  | some v => read v
  | none => .error (.wrongLength i (f.expected ++ s!" with {f.size} elements"))

/-- Reads an item of an array, or takes the default if the array ends before it. -/
def Record.itemD {α : Type} (vs : List Json) (i : Nat) (read : Record.Reader α) (default : α) :
    Except DataError α :=
  match vs[i]? with
  | some v => read v
  | none => .ok default

/-- Refuses an array with more items than the record has fields. -/
def Record.Form.noMore (f : Record.Form) (vs : List Json) : Except DataError Unit :=
  if vs.length ≤ f.size then .ok ()
  else .error (.wrongLength vs.length "fewer elements in array")

end Booking
