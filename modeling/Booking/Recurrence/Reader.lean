import Booking.Recurrence.Field
import Booking.Recurrence.Pattern
import Booking.Text.Basic
/-!
# Reading patterns

A pattern is five words. Each word is a comma list of tokens, and a token is
`*`, `*/S`, `/S`, `N`, `A-B` or `A-B/S`. All lists are read before any field is
checked, so a malformed token anywhere is reported before a number that is out
of bounds or a step that is zero.
-/
namespace Booking

def Field.numberBound : Nat := 4294967296

def Field.number? (cs : List Char) : Option Nat := Text.numeralBelow? Field.numberBound cs

/-- A range with a step; a range of one value has no use for one above 1. -/
def Field.stepped (first last step : Nat) : Field :=
  .range first last (if first = last ∧ 1 < step then 1 else step)

/-- The two numbers of a text such as `A-B`. -/
def Field.ends? (cs : List Char) : Option (Nat × Nat) := do
  let (a, b) ← Text.cut '-' cs
  return (← Field.number? a, ← Field.number? b)

def Field.ofToken? (d : Dimension) (token : List Char) : Option Field :=
  match Text.cut '/' token with
  | some (ends, step) => do
    let step ← Field.number? step
    let (first, last) ←
      if ends = ['*'] ∨ ends = [] then some (d.least, d.greatest) else Field.ends? ends
    return Field.stepped first last step
  | none =>
    if token = ['*'] then some .any
    else if '-' ∈ token then (Field.ends? token).map (fun q => .range q.1 q.2 1)
    else (Field.number? token).map (fun n => .range n n 1)

def Field.readToken (d : Dimension) (token : List Char) : Except PatternError Field :=
  match Field.ofToken? d token with
  | some f => .ok f
  | none => .error (.malformed d (String.ofList token))

/-- Reads a comma list; the first malformed token decides the error. -/
def Field.readList (d : Dimension) (cs : List Char) : Except PatternError (List Field) :=
  (Text.pieces (· == ',') cs).mapM (Field.readToken d)

/-- Refuses a field with a number out of bounds, then one with step zero. -/
def Field.check (d : Dimension) (f : Field) : Except PatternError Unit :=
  if !f.isWithin d then .error (.outOfBounds d (String.ofList f.text))
  else if !f.hasStep then .error (.zeroStep d (String.ofList f.text))
  else .ok ()

def Field.checkList (d : Dimension) (fs : List Field) : Except PatternError Unit :=
  fs.forM (Field.check d)

/-- Reads the list of one dimension and checks its fields. -/
def Field.parseList (d : Dimension) (cs : List Char) : Except PatternError (List Field) := do
  let fs ← Field.readList d cs
  Field.checkList d fs
  return fs

def Pattern.check (p : Pattern) : Except PatternError Unit :=
  Dimension.all.forM (fun d => Field.checkList d (p.fields d))

/-- Reads the five lists without checking their fields. -/
def Pattern.readLists : List (List Char) → Except PatternError Pattern
  | [minutes, hours, daysOfMonth, months, daysOfWeek] => do
    return {
      minutes := ← Field.readList .minute minutes
      hours := ← Field.readList .hour hours
      daysOfMonth := ← Field.readList .dayOfMonth daysOfMonth
      months := ← Field.readList .month months
      daysOfWeek := ← Field.readList .dayOfWeek daysOfWeek }
  | ws => .error (.fieldCount ws.length)

def Pattern.parseText (cs : List Char) : Except PatternError Pattern := do
  let p ← Pattern.readLists (Text.words cs)
  p.check
  return p

def Pattern.parse (s : String) : Except PatternError Pattern := Pattern.parseText s.toList

/-- The longest text of a pattern that a request may carry, in UTF-8 bytes. -/
def Pattern.maxLength : Nat := 512

end Booking
