import Booking.Text.Basic
import Booking.Text.Quoted
/-!
# Dimensions and fields

A recurrence pattern asks one question per dimension: minute, hour, day of the
month, month, day of the week. A field is one alternative of the answer: any
value, or a range with a step. A range whose last value is below its first
wraps around, as in `22-6` for the night hours.
-/
namespace Booking

inductive Dimension where
  | minute
  | hour
  | dayOfMonth
  | month
  | dayOfWeek
deriving DecidableEq, Repr

/-- The dimensions in the order in which a pattern gives them. -/
def Dimension.all : List Dimension := [.minute, .hour, .dayOfMonth, .month, .dayOfWeek]

theorem Dimension.mem_all (d : Dimension) : d ∈ Dimension.all := by cases d <;> decide

def Dimension.least : Dimension → Nat
  | .minute | .hour | .dayOfWeek => 0
  | .dayOfMonth | .month => 1

def Dimension.greatest : Dimension → Nat
  | .minute => 59
  | .hour => 23
  | .dayOfMonth => 31
  | .month => 12
  | .dayOfWeek => 6

/-- The name that error messages use. -/
def Dimension.name : Dimension → String
  | .minute => "minute"
  | .hour => "hour"
  | .dayOfMonth => "day-of-month"
  | .month => "month"
  | .dayOfWeek => "day-of-week"

/-- The heading that a labelled pattern uses. -/
def Dimension.label : Dimension → String
  | .minute => "minutes"
  | .hour => "hours"
  | .dayOfMonth => "days of the month"
  | .month => "months"
  | .dayOfWeek => "days of the week"

def Dimension.admits (d : Dimension) (n : Nat) : Bool := d.least ≤ n && n ≤ d.greatest

/-- One alternative of a dimension. -/
inductive Field where
  | any
  | range (first last step : Nat)
deriving DecidableEq, Repr

/-- Whether the value stands on the range: a whole number of steps from `first`, and between the
two ends, or outside the gap between them if the range wraps around. Step 0 accepts nothing. -/
def Field.accepts : Field → Nat → Bool
  | .any, _ => true
  | .range first last step, value =>
    step != 0 && ((value : Int) - first) % step == 0 &&
      (if first ≤ last then first ≤ value && value ≤ last else first ≤ value || value ≤ last)

/-- The canonical text of a field: the shortest form that says the same. -/
def Field.text : Field → List Char
  | .any => ['*']
  | .range first last step =>
    if first = last then Nat.toDigits 10 first
    else
      let ends := Nat.toDigits 10 first ++ '-' :: Nat.toDigits 10 last
      if step = 1 then ends else ends ++ '/' :: Nat.toDigits 10 step

def Field.isWithin (d : Dimension) : Field → Bool
  | .any => true
  | .range first last _ => d.admits first && d.admits last

def Field.hasStep : Field → Bool
  | .any => true
  | .range _ _ step => step != 0

/-!
## Why a pattern is refused

The causes, and the text that reports them. A malformed token is shown as it
was written; a field that is out of bounds or has no step is shown in its
canonical text.
-/

inductive PatternError where
  /-- The pattern has this many words, and not five. -/
  | fieldCount (count : Nat)
  | malformed (dimension : Dimension) (token : String)
  | outOfBounds (dimension : Dimension) (field : String)
  | zeroStep (dimension : Dimension) (field : String)
deriving DecidableEq, Repr

def PatternError.message : PatternError → String
  | .fieldCount n => s!"invalid pattern: expected 5 fields, got {n}"
  | .malformed d token => "invalid " ++ d.name ++ " token " ++ Text.quoted token
  | .outOfBounds d field =>
    "invalid range " ++ field ++ " for " ++ d.name ++
      s!" (valid values: {d.least}-{d.greatest})"
  | .zeroStep d field =>
    "invalid step in " ++ field ++ " for " ++ d.name ++ " (valid values: >= 1)"

end Booking
