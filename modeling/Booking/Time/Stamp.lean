import Booking.Text.Basic
import Booking.Time.Instant
/-!
# Timestamps

Instants as RFC 3339 text. Writing is strict: `T`, `Z`, and a fraction of three
digits unless it is zero; a year outside 0 to 9999 has a sign. Reading is more
relaxed. Numbers may be short, blanks may stand before a number, a dash or a
colon, `T` may be a small letter or a blank, and the offset may be `UTC`. A
fraction is cut to milliseconds. Second 60 is the second after second 59.
-/
namespace Booking

def Stamp.yearText (year : Int) : List Char :=
  let ds := Text.padded 4 year.natAbs
  if year < 0 then '-' :: ds else if year ≤ 9999 then ds else '+' :: ds

def Stamp.text? (t : Int) : Option String :=
  if !Instant.isRepresentable t then none
  else
    let date := Instant.date t
    let ms := (t % 1000).toNat
    let two (n : Int) := Text.padded 2 n.toNat
    let fraction := if ms = 0 then [] else '.' :: Text.padded 3 ms
    some (String.ofList
      (Stamp.yearText date.year ++ '-' :: Text.padded 2 date.month ++
        '-' :: Text.padded 2 date.day ++ 'T' :: two (t / Instant.msPerHour % 24) ++
        ':' :: two (t / Instant.msPerMinute % 60) ++ ':' :: two (t / 1000 % 60) ++
        fraction ++ ['Z']))

/-- Takes a run of digits, at least one and at most `width`. -/
def Stamp.run? (width : Nat) (cs : List Char) : Option (Nat × List Char) :=
  let ds := (cs.take width).takeWhile Char.isDigit
  if ds.isEmpty then none else some (Nat.ofDigitChars 10 ds 0, cs.drop ds.length)

/-- A number of one or two digits, behind blanks. -/
def Stamp.number? (cs : List Char) : Option (Nat × List Char) := Stamp.run? 2 (Text.trimLeft cs)

/-- The year: up to four digits, or a sign and any number of digits. -/
def Stamp.year? (cs : List Char) : Option (Int × List Char) :=
  match Text.trimLeft cs with
  | '-' :: rest => (Stamp.run? rest.length rest).map (fun q => (-(q.1 : Int), q.2))
  | '+' :: rest => (Stamp.run? rest.length rest).map (fun q => ((q.1 : Int), q.2))
  | rest => (Stamp.run? 4 rest).map (fun q => ((q.1 : Int), q.2))

def Stamp.separator? (sep : Char) (cs : List Char) : Option (List Char) :=
  match Text.trimLeft cs with
  | c :: rest => if c = sep then some rest else none
  | [] => none

/-- The milliseconds of an optional fraction. -/
def Stamp.fraction? : List Char → Option (Nat × List Char)
  | '.' :: cs =>
    let ds := cs.takeWhile Char.isDigit
    if ds.isEmpty then none
    else some (Nat.ofDigitChars 10 ((ds ++ ['0', '0']).take 3) 0, cs.dropWhile Char.isDigit)
  | cs => some (0, cs)

/-- Hours and minutes of an offset, in minutes; colons and blanks may stand between them. -/
def Stamp.offsetSize? : List Char → Option (Nat × List Char)
  | a :: b :: cs =>
    match cs.dropWhile (fun c => c == ':' || Text.isBlank c) with
    | c :: d :: rest =>
      if [a, b, c, d].all Char.isDigit then
        let hours := Nat.ofDigitChars 10 [a, b] 0
        let minutes := Nat.ofDigitChars 10 [c, d] 0
        if hours < 24 ∧ minutes < 60 then some (hours * 60 + minutes, rest) else none
      else none
    | _ => none
  | _ => none

/-- The offset from UTC, in minutes. The sign may be a hyphen or the minus sign U+2212. -/
def Stamp.offset? : List Char → Option (Int × List Char)
  | 'Z' :: rest | 'z' :: rest => some (0, rest)
  | '+' :: rest => (Stamp.offsetSize? rest).map (fun q => ((q.1 : Int), q.2))
  | '-' :: rest | '\u2212' :: rest =>
    (Stamp.offsetSize? rest).map (fun q => (-(q.1 : Int), q.2))
  | a :: b :: c :: rest =>
    if [a, b, c].map Char.toUpper = ['U', 'T', 'C'] then some (0, rest) else none
  | _ => none

def Stamp.date? (cs : List Char) : Option (Date × List Char) := do
  let (year, cs) ← Stamp.year? cs
  let cs ← Stamp.separator? '-' cs
  let (month, cs) ← Stamp.number? cs
  let cs ← Stamp.separator? '-' cs
  let (day, cs) ← Stamp.number? cs
  let date : Date := { year, month, day }
  if date.isValid && Date.hasDay date.dayNumber then
    match cs with
    | 'T' :: rest | 't' :: rest | ' ' :: rest => some (date, rest)
    | _ => none
  else none

/-- The time of day: full seconds up to second 59, and the milliseconds beyond them. -/
def Stamp.time? (cs : List Char) : Option (Int × Int × List Char) := do
  let (hour, cs) ← Stamp.number? cs
  let cs ← Stamp.separator? ':' cs
  let (minute, cs) ← Stamp.number? cs
  let cs ← Stamp.separator? ':' cs
  let (second, cs) ← Stamp.number? cs
  let (ms, cs) ← Stamp.fraction? cs
  if hour < 24 ∧ minute < 60 ∧ second ≤ 60 then
    let leap : Nat := if second = 60 then 1 else 0
    some ((hour * 60 + minute) * 60 + (second - leap : Nat), leap * 1000 + ms, cs)
  else none

/-- Reads a timestamp. The day has to have a date both at the offset and in UTC. -/
def Stamp.parse? (s : String) : Option Int := do
  let (date, cs) ← Stamp.date? s.toList
  let (seconds, ms, cs) ← Stamp.time? cs
  let (offset, cs) ← Stamp.offset? (Text.trimLeft cs)
  let whole := Instant.ofDayNumber date.dayNumber + (seconds - offset * 60) * 1000
  if (Text.trimLeft cs).isEmpty && Instant.isRepresentable whole then some (whole + ms) else none

end Booking
