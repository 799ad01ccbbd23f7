import Booking.Recurrence.Field
import Booking.Time.Instant
/-!
# Recurrence patterns

A pattern holds a list of alternatives for each dimension. It accepts an
instant if every dimension has an alternative that accepts the instant's value
there. Weekdays are counted from Sunday as 1 when they are compared, so a field
0 stands for no day and Saturday is 7.
-/
namespace Booking

structure Pattern where
  minutes : List Field
  hours : List Field
  daysOfMonth : List Field
  months : List Field
  daysOfWeek : List Field
deriving DecidableEq, Repr

def Pattern.fields (p : Pattern) : Dimension → List Field
  | .minute => p.minutes
  | .hour => p.hours
  | .dayOfMonth => p.daysOfMonth
  | .month => p.months
  | .dayOfWeek => p.daysOfWeek

/-- The value that a dimension compares with its fields. -/
def Sample.value (s : Sample) : Dimension → Nat
  | .minute => s.minute
  | .hour => s.hour
  | .dayOfMonth => s.day
  | .month => s.month
  | .dayOfWeek => s.weekday + 1

def Pattern.acceptsSample (p : Pattern) (s : Sample) : Bool :=
  Dimension.all.all (fun d => (p.fields d).any (fun f => f.accepts (s.value d)))

def Pattern.accepts (p : Pattern) (t : Int) : Bool :=
  match Sample.ofInstant? t with
  | none => false
  | some s => p.acceptsSample s

/-- A pattern accepts an instant if in each dimension some field accepts its value. -/
theorem Pattern.accepts_iff {p : Pattern} {t : Int} :
    p.accepts t = true ↔
      ∃ s, Sample.ofInstant? t = some s ∧
        ∀ d, ∃ f ∈ p.fields d, f.accepts (s.value d) = true := by
  unfold Pattern.accepts
  cases Sample.ofInstant? t with
  | none => simp
  | some s =>
    simp only [Pattern.acceptsSample, List.all_eq_true, List.any_eq_true, Option.some.injEq,
      exists_eq_left', Dimension.mem_all, true_implies]

/-- Whether the clock of the second instant shows an earlier hour than that of the first. -/
def Sample.wrapsHour (start stop : Int) : Bool :=
  match Sample.ofInstant? start, Sample.ofInstant? stop with
  | some s, some e => e.hour < s.hour
  | _, _ => false

/-- Whether the pattern accepts the range from `start` to `stop`: both its ends, or, if the hour
goes back on the way, the midnight after its end. -/
def Pattern.acceptsRange (p : Pattern) (start stop : Int) : Bool :=
  (p.accepts start && p.accepts stop) ||
    (Sample.wrapsHour start stop && (Instant.nextMidnight? stop).any p.accepts)

/-- The alternatives of a dimension, separated by commas. -/
def Field.listText (fs : List Field) : List Char := [','].intercalate (fs.map Field.text)

/-- The canonical text: the five lists, separated by blanks. -/
def Pattern.text (p : Pattern) : List Char :=
  [' '].intercalate (Dimension.all.map (fun d => Field.listText (p.fields d)))

def Pattern.canonical (p : Pattern) : String := String.ofList p.text

/-- One line per dimension, each under its label. -/
def Pattern.labelled (p : Pattern) : String :=
  "\n".intercalate
    (Dimension.all.map (fun d => d.label ++ ": " ++ String.ofList (Field.listText (p.fields d))))

end Booking
