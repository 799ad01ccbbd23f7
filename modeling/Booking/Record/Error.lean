import Booking.Ident
import Booking.Json.Value
import Booking.Recurrence.Field
/-!
# Why a value is refused

The causes for which a JSON value is no record of the wanted kind, and the text
that reports them. What was found is described by its kind, and scalars by their
value too.
-/
namespace Booking

inductive DataError where
  /-- A value of another kind than the one that belongs here. -/
  | wrongType (found expected : String)
  /-- A value of the right kind that is out of range. -/
  | wrongValue (found expected : String)
  | wrongLength (length : Nat) (expected : String)
  | missing (field : String)
  | repeated (field : String)
  | unknownVariant (name : String) (known : List String)
  | ident (cause : IdentError)
  | pattern (cause : PatternError)
  | timestamp
deriving DecidableEq, Repr

def DataError.ticked (s : String) : String := "\x60" ++ s ++ "\x60"

/-- A value as error messages describe it. -/
def DataError.describe : Json → String
  | .null => "null"
  | .bool b => "boolean " ++ DataError.ticked (if b then "true" else "false")
  | .number (.integer i) => "integer " ++ DataError.ticked (String.ofList (Text.integer i))
  | .number n => "floating point " ++ DataError.ticked n.text
  | .string s => "string " ++ Text.quoted s
  | .array _ => "sequence"
  | .object _ => "map"

def DataError.message : DataError → String
  | .wrongType found expected => "invalid type: " ++ found ++ ", expected " ++ expected
  | .wrongValue found expected => "invalid value: " ++ found ++ ", expected " ++ expected
  | .wrongLength n expected => s!"invalid length {n}, expected " ++ expected
  | .missing field => "missing field " ++ DataError.ticked field
  | .repeated field => "duplicate field " ++ DataError.ticked field
  | .unknownVariant name known =>
    "unknown variant " ++ DataError.ticked name ++ ", expected one of " ++
      ", ".intercalate (known.map DataError.ticked)
  | .ident cause => cause.message
  | .pattern cause => cause.message
  | .timestamp => "invalid timestamp"

end Booking
