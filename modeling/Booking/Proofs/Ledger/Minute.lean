import Booking.Ledger.Basic
/-!
# Decisions to the minute

No decision looks at an instant more closely than at its minute. An instant and the beginning of its
minute show the same sample and have the same midnight after them, so a pattern accepts both or neither,
a rule counts a reservation as it counts the one with rounded ends, and an admission stays what it is
when every instant in the ledger and in the question is rounded down (`Ledger.decides_to_the_minute`).
Rounding goes toward the past, also before 1970.
-/
namespace Booking

/-- The beginning of the minute that the instant lies in. -/
def Instant.wholeMinute (t : Int) : Int := t / Instant.msPerMinute * Instant.msPerMinute

/-- The reservation with both ends rounded down to the minute. -/
def Reservation.wholeMinutes (r : Reservation) : Reservation :=
  { r with start := Instant.wholeMinute r.start, stop := Instant.wholeMinute r.stop }

/-- The ledger with every reservation in its log rounded down to the minute. -/
def Ledger.wholeMinutes (l : Ledger) : Ledger :=
  { l with log := l.log.map Reservation.wholeMinutes }

def Ledger.Change.wholeMinutes : Ledger.Change → Ledger.Change
  | .reservation r => .reservation r.wholeMinutes
  | c => c

/-! ## Instants -/

section

variable (t : Int)

theorem Instant.wholeMinute_bounds : Instant.msPerMinute ∣ Instant.wholeMinute t ∧
    Instant.wholeMinute t ≤ t ∧ t < Instant.wholeMinute t + Instant.msPerMinute := by
  refine ⟨Int.dvd_mul_left _ _, ?_, ?_⟩ <;>
    simp only [Instant.wholeMinute, Instant.msPerMinute] <;> omega

example : Instant.wholeMinute (-1) = -60000 := by decide

/-- A day begins with a minute. -/
theorem Instant.dayNumber_wholeMinute :
    Instant.dayNumber (Instant.wholeMinute t) = Instant.dayNumber t := by
  simp only [Instant.dayNumber, Instant.wholeMinute, Instant.msPerDay, Instant.msPerMinute]
  omega

theorem Sample.ofInstant?_wholeMinute :
    Sample.ofInstant? (Instant.wholeMinute t) = Sample.ofInstant? t := by
  have hminute : Instant.wholeMinute t / Instant.msPerMinute = t / Instant.msPerMinute := by
    simp only [Instant.wholeMinute, Instant.msPerMinute]
    omega
  have hhour : Instant.wholeMinute t / Instant.msPerHour = t / Instant.msPerHour := by
    simp only [Instant.wholeMinute, Instant.msPerMinute, Instant.msPerHour]
    omega
  simp only [Sample.ofInstant?, Instant.dayNumber_wholeMinute, hminute, hhour]

theorem Instant.nextMidnight?_wholeMinute :
    Instant.nextMidnight? (Instant.wholeMinute t) = Instant.nextMidnight? t := by
  simp only [Instant.nextMidnight?, Instant.dayNumber_wholeMinute]

end

/-! ## Patterns and rules -/

section

variable (start stop : Int)

theorem Pattern.accepts_wholeMinute (p : Pattern) (t : Int) :
    p.accepts (Instant.wholeMinute t) = p.accepts t := by
  rw [Pattern.accepts, Sample.ofInstant?_wholeMinute, Pattern.accepts]

theorem Sample.wrapsHour_wholeMinute :
    Sample.wrapsHour (Instant.wholeMinute start) (Instant.wholeMinute stop) =
      Sample.wrapsHour start stop := by
  simp only [Sample.wrapsHour, Sample.ofInstant?_wholeMinute]

theorem Pattern.acceptsRange_wholeMinute (p : Pattern) :
    p.acceptsRange (Instant.wholeMinute start) (Instant.wholeMinute stop) =
      p.acceptsRange start stop := by
  simp only [Pattern.acceptsRange, Pattern.accepts_wholeMinute, Sample.wrapsHour_wholeMinute,
    Instant.nextMidnight?_wholeMinute]

theorem Rule.counts_wholeMinutes (rule : Rule) (r : Reservation) :
    rule.counts r.wholeMinutes = rule.counts r := by
  simp only [Rule.counts, Reservation.wholeMinutes, Pattern.accepts_wholeMinute]

theorem Rule.allows_wholeMinutes (rule : Rule) (existing : List Reservation) (user : Ident) :
    rule.allows (existing.map Reservation.wholeMinutes) user (Instant.wholeMinute start)
      (Instant.wholeMinute stop) = rule.allows existing user start stop := by
  have hcount : (existing.map Reservation.wholeMinutes).countP
      (fun r => rule.counts r && r.user == user) =
        existing.countP (fun r => rule.counts r && r.user == user) := by
    rw [List.countP_map]
    refine List.countP_congr fun r _ => ?_
    rw [Function.comp, rule.counts_wholeMinutes]
    rfl
  rw [Rule.allows, Pattern.acceptsRange_wholeMinute, hcount, Rule.allows]

end

/-! ## Ledgers -/

section

variable (l : Ledger)

/-- The positions of a user point at the rounded reservations. -/
theorem Ledger.reservationsOf_wholeMinutes (user : Ident) :
    l.wholeMinutes.reservationsOf user =
      (l.reservationsOf user).map Reservation.wholeMinutes := by
  have hlog (i : Nat) : l.wholeMinutes.log[i]? = l.log[i]?.map Reservation.wholeMinutes :=
    Array.getElem?_map
  simp only [Ledger.reservationsOf, List.map_filterMap, hlog]
  rfl

theorem Ledger.reservationsFor_wholeMinutes (user g : Ident) :
    l.wholeMinutes.reservationsFor user g =
      (l.reservationsFor user g).map Reservation.wholeMinutes := by
  have hgroup : l.wholeMinutes.group? g = l.group? g := rfl
  rw [Ledger.reservationsFor, hgroup, Ledger.reservationsFor]
  cases l.group? g with
  | none => rfl
  | some group =>
    simp only [Ledger.reservationsOf_wholeMinutes, List.filter_map]
    rfl

theorem Ledger.admission_wholeMinutes (user g : Ident) (start stop : Int) :
    l.wholeMinutes.admission user g (Instant.wholeMinute start) (Instant.wholeMinute stop) =
      l.admission user g start stop := by
  have hgroup : l.wholeMinutes.group? g = l.group? g := rfl
  have hrules : l.wholeMinutes.rulesFor g = l.rulesFor g := rfl
  simp only [Ledger.admission, hgroup, hrules, Ledger.reservationsFor_wholeMinutes,
    Rule.allows_wholeMinutes]

theorem Ledger.wholeMinutes_apply (c : Ledger.Change) :
    (l.apply c).wholeMinutes = l.wholeMinutes.apply c.wholeMinutes := by
  cases c with
  | reservation r =>
    simp only [Ledger.apply, Ledger.Change.wholeMinutes, Ledger.addReservation,
      Ledger.wholeMinutes, Array.map_push, Array.size_map]
    rfl
  | group _ => rfl
  | resource _ _ => rfl
  | rule _ => rfl

end

theorem Ledger.wholeMinutes_foldl : ∀ (cs : List Ledger.Change) (l : Ledger),
    (cs.foldl Ledger.apply l).wholeMinutes =
      (cs.map Ledger.Change.wholeMinutes).foldl Ledger.apply l.wholeMinutes
  | [], _ => rfl
  | c :: cs, l => by
    rw [List.foldl_cons, Ledger.wholeMinutes_foldl cs, Ledger.wholeMinutes_apply, List.map_cons,
      List.foldl_cons]

/-- Rounding the log gives the ledger to which the rounded reservations were added. -/
theorem Ledger.wholeMinutes_ofChanges (cs : List Ledger.Change) :
    (Ledger.ofChanges cs).wholeMinutes =
      Ledger.ofChanges (cs.map Ledger.Change.wholeMinutes) := by
  have hempty : Ledger.wholeMinutes {} = {} := by
    rw [Ledger.wholeMinutes, Array.map_empty]
  rw [Ledger.ofChanges, Ledger.wholeMinutes_foldl, hempty, Ledger.ofChanges]

/-- **Decisions are made to the minute.** The beginning of an instant's minute shows the same sample, or
none as the instant does, and is followed by the same midnight; a pattern accepts it, and a range between
two such beginnings, as it accepts the instants themselves; and an admission does not change when its two
instants and both ends of every reservation in the log are rounded down. The rounded log is that of the
ledger to which the reservations were added with rounded ends. -/
theorem Ledger.decides_to_the_minute :
    (∀ t, Instant.msPerMinute ∣ Instant.wholeMinute t ∧ Instant.wholeMinute t ≤ t ∧
      t < Instant.wholeMinute t + Instant.msPerMinute) ∧
    (∀ t, Sample.ofInstant? (Instant.wholeMinute t) = Sample.ofInstant? t ∧
      Instant.nextMidnight? (Instant.wholeMinute t) = Instant.nextMidnight? t) ∧
    (∀ (p : Pattern) t, p.accepts (Instant.wholeMinute t) = p.accepts t) ∧
    (∀ (p : Pattern) start stop,
      p.acceptsRange (Instant.wholeMinute start) (Instant.wholeMinute stop) =
        p.acceptsRange start stop) ∧
    (∀ (l : Ledger) user g start stop,
      l.wholeMinutes.admission user g (Instant.wholeMinute start) (Instant.wholeMinute stop) =
        l.admission user g start stop) ∧
    ∀ cs, (Ledger.ofChanges cs).wholeMinutes =
      Ledger.ofChanges (cs.map Ledger.Change.wholeMinutes) :=
  ⟨Instant.wholeMinute_bounds,
    fun t => ⟨Sample.ofInstant?_wholeMinute t, Instant.nextMidnight?_wholeMinute t⟩,
    Pattern.accepts_wholeMinute, fun p start stop => p.acceptsRange_wholeMinute start stop,
    Ledger.admission_wholeMinutes, Ledger.wholeMinutes_ofChanges⟩

end Booking
