import Booking.Availability.Basic
import Booking.Proofs.Time.Bucket
/-!
# The cycle of the calendar

After 400 years the calendar begins anew: the years have the same months and leap days, and as the
146097 days are a whole number of weeks, the days have the same weekdays. So whatever is asked of the
calendar is answered 400 years later as it is now (`Instant.cycle_keeps_decisions`), as long as all the
days that are looked at have dates.
-/
namespace Booking

/-- The number of days of 400 years. -/
def Date.cycle : Int := 146097

/-- The number of milliseconds of 400 years. -/
def Instant.cycle : Int := Date.cycle * Instant.msPerDay

/-! ## Dates -/

theorem Date.isLeapYear_add_cycle (y : Int) : Date.isLeapYear (y + 400) = Date.isLeapYear y := by
  have h4 : (y + 400) % 4 = y % 4 := by omega
  have h100 : (y + 400) % 100 = y % 100 := by omega
  have h400 : (y + 400) % 400 = y % 400 := by omega
  rw [Date.isLeapYear, h4, h100, h400, Date.isLeapYear]

theorem Date.monthLength_add_cycle (y : Int) (m : Nat) :
    Date.monthLength (y + 400) m = Date.monthLength y m := by
  unfold Date.monthLength
  rw [Date.isLeapYear_add_cycle]

theorem Date.daysBeforeMonth_add_cycle (y : Int) : ∀ (m : Nat),
    Date.daysBeforeMonth (y + 400) m = Date.daysBeforeMonth y m
  | 0 | 1 => rfl
  | m + 2 => by
    rw [Date.daysBeforeMonth, Date.daysBeforeMonth, Date.daysBeforeMonth_add_cycle y (m + 1),
      Date.monthLength_add_cycle]

/-- **400 years have as many days, wherever they begin.** -/
theorem Date.daysBeforeYear_add_cycle (y : Int) :
    Date.daysBeforeYear (y + 400) = Date.daysBeforeYear y + Date.cycle := by
  unfold Date.daysBeforeYear Date.cycle
  omega

/-- The date 400 years later. -/
def Date.nextCycle (d : Date) : Date := { d with year := d.year + 400 }

theorem Date.isValid_nextCycle {d : Date} (h : d.isValid = true) : d.nextCycle.isValid = true := by
  rw [Date.isValid_iff] at h ⊢
  simp only [Date.nextCycle, Date.monthLength_add_cycle]
  exact h

theorem Date.dayNumber_nextCycle (d : Date) :
    d.nextCycle.dayNumber = d.dayNumber + Date.cycle := by
  simp only [Date.dayNumber, Date.nextCycle, Date.daysBeforeYear_add_cycle,
    Date.daysBeforeMonth_add_cycle]
  omega

theorem Date.ofDayNumber_add_cycle (n : Int) :
    Date.ofDayNumber (n + Date.cycle) = (Date.ofDayNumber n).nextCycle := by
  refine Date.ofDayNumber_eq_iff.2 ⟨Date.isValid_nextCycle (Date.isValid_ofDayNumber n), ?_⟩
  rw [Date.dayNumber_nextCycle, Date.dayNumber_ofDayNumber]

/-- **400 years are a whole number of weeks.** -/
theorem Date.weekday_add_cycle (n : Int) : Date.weekday (n + Date.cycle) = Date.weekday n := by
  unfold Date.weekday Date.cycle
  omega

/-- The days of a period move by the cycle. -/
theorem Period.days_add_cycle (p : Period) (n : Int) :
    p.days (n + Date.cycle) = ((p.days n).1 + Date.cycle, (p.days n).2 + Date.cycle) := by
  cases p with
  | day =>
    simp only [Period.days, Prod.mk.injEq, true_and]
    omega
  | week =>
    simp only [Period.days, Date.weekday_add_cycle, Prod.mk.injEq]
    omega
  | month =>
    simp only [Period.days, Date.ofDayNumber_add_cycle, Date.nextCycle, Date.monthLength_add_cycle,
      Prod.mk.injEq]
    omega
  | year =>
    have hyear (y : Int) : Date.dayNumber ⟨y + 400, 1, 1⟩ = Date.dayNumber ⟨y, 1, 1⟩ + Date.cycle :=
      Date.dayNumber_nextCycle ⟨y, 1, 1⟩
    simp only [Period.days, Date.ofDayNumber_add_cycle, Date.nextCycle, hyear, Prod.mk.injEq,
      true_and]
    rw [Int.add_right_comm, hyear]

/-! ## Instants -/

/-- The span so many milliseconds later. -/
def Span.shift (ms : Int) (s : Span) : Span := { start := s.start + ms, stop := s.stop + ms }

theorem Instant.dayNumber_add_cycle (t : Int) :
    Instant.dayNumber (t + Instant.cycle) = Instant.dayNumber t + Date.cycle := by
  unfold Instant.dayNumber Instant.cycle
  exact Int.add_mul_ediv_right t Date.cycle (by decide)

theorem Instant.ofDayNumber_add_cycle (n : Int) :
    Instant.ofDayNumber (n + Date.cycle) = Instant.ofDayNumber n + Instant.cycle :=
  Int.add_mul n Date.cycle Instant.msPerDay

section

variable {t : Int}

theorem Sample.ofInstant?_add_cycle (h : Instant.isRepresentable t = true)
    (h' : Instant.isRepresentable (t + Instant.cycle) = true) :
    Sample.ofInstant? (t + Instant.cycle) = Sample.ofInstant? t := by
  have hminute : (t + Instant.cycle) / Instant.msPerMinute % 60 = t / Instant.msPerMinute % 60 := by
    simp only [Instant.cycle, Date.cycle, Instant.msPerDay, Instant.msPerMinute]
    omega
  have hhour : (t + Instant.cycle) / Instant.msPerHour % 24 = t / Instant.msPerHour % 24 := by
    simp only [Instant.cycle, Date.cycle, Instant.msPerDay, Instant.msPerHour]
    omega
  simp only [Instant.isRepresentable] at h h'
  simp only [Sample.ofInstant?, h, h', if_true, hminute, hhour]
  rw [Instant.dayNumber_add_cycle, Date.ofDayNumber_add_cycle, Date.weekday_add_cycle]
  rfl

theorem Instant.nextMidnight?_add_cycle (h : (Instant.nextMidnight? t).isSome)
    (h' : (Instant.nextMidnight? (t + Instant.cycle)).isSome) :
    Instant.nextMidnight? (t + Instant.cycle) = (Instant.nextMidnight? t).map (· + Instant.cycle) := by
  simp only [Instant.nextMidnight?, Option.isSome_ite] at h h' ⊢
  rw [if_pos h, if_pos h', Instant.dayNumber_add_cycle, Int.add_right_comm,
    Instant.ofDayNumber_add_cycle, Option.map_some]

theorem Period.bucket?_add_cycle {p : Period} (h : (p.bucket? t).isSome)
    (h' : (p.bucket? (t + Instant.cycle)).isSome) :
    p.bucket? (t + Instant.cycle) = (p.bucket? t).map (Span.shift Instant.cycle) := by
  simp only [Period.bucket?, Option.isSome_ite] at h h' ⊢
  rw [if_pos h, if_pos h', Option.map_some, Instant.dayNumber_add_cycle, Period.days_add_cycle,
    Span.shift, Instant.ofDayNumber_add_cycle, Instant.ofDayNumber_add_cycle]

end

/-! ## Patterns and quotas -/

section

variable {start stop t : Int}

theorem Pattern.accepts_add_cycle (p : Pattern) (h : Instant.isRepresentable t = true)
    (h' : Instant.isRepresentable (t + Instant.cycle) = true) :
    p.accepts (t + Instant.cycle) = p.accepts t := by
  rw [Pattern.accepts, Sample.ofInstant?_add_cycle h h', Pattern.accepts]

theorem Instant.isRepresentable_of_nextMidnight? {next : Int}
    (h : Instant.nextMidnight? t = some next) : Instant.isRepresentable next = true := by
  simp only [Instant.nextMidnight?, Option.ite_none_right_eq_some, Option.some.injEq,
    Bool.and_eq_true] at h
  obtain ⟨⟨-, hday⟩, rfl⟩ := h
  rw [Instant.isRepresentable, Instant.dayNumber_ofDayNumber, hday]

theorem Pattern.accepts_nextMidnight?_add_cycle (p : Pattern)
    (h : (Instant.nextMidnight? t).isSome)
    (h' : (Instant.nextMidnight? (t + Instant.cycle)).isSome) :
    (Instant.nextMidnight? (t + Instant.cycle)).any p.accepts =
      (Instant.nextMidnight? t).any p.accepts := by
  have hnext := Instant.nextMidnight?_add_cycle h h'
  obtain ⟨next, hold⟩ := Option.isSome_iff_exists.1 h
  rw [hold, Option.map_some] at hnext
  rw [hold, hnext, Option.any_some, Option.any_some,
    p.accepts_add_cycle (Instant.isRepresentable_of_nextMidnight? hold)
      (Instant.isRepresentable_of_nextMidnight? hnext)]

/-- An instant whose day has a date has a midnight after it, if the instant 400 years later has one. -/
theorem Instant.nextMidnight?_isSome_of_add_cycle (h : Instant.isRepresentable t = true)
    (h' : (Instant.nextMidnight? (t + Instant.cycle)).isSome) :
    (Instant.nextMidnight? t).isSome := by
  simp only [Instant.nextMidnight?, Option.isSome_ite, Bool.and_eq_true,
    Instant.dayNumber_add_cycle] at h' ⊢
  have hcycle : Date.cycle = 146097 := rfl
  exact ⟨h, Date.hasDay_of_between h h'.2 (by omega) (by omega)⟩

/-- A range is accepted as it is 400 years earlier, if there is a midnight after its later end where the
pattern looks for one. -/
theorem Pattern.acceptsRange_add_cycle (p : Pattern)
    (hstart : Instant.isRepresentable start = true)
    (hstart' : Instant.isRepresentable (start + Instant.cycle) = true)
    (hstop : Instant.isRepresentable stop = true)
    (hstop' : Instant.isRepresentable (stop + Instant.cycle) = true)
    (hnext : (p.accepts start && p.accepts stop) = false → Sample.wrapsHour start stop = true →
      (Instant.nextMidnight? (stop + Instant.cycle)).isSome) :
    p.acceptsRange (start + Instant.cycle) (stop + Instant.cycle) = p.acceptsRange start stop := by
  have hwraps : Sample.wrapsHour (start + Instant.cycle) (stop + Instant.cycle) =
      Sample.wrapsHour start stop := by
    rw [Sample.wrapsHour, Sample.ofInstant?_add_cycle hstart hstart',
      Sample.ofInstant?_add_cycle hstop hstop', Sample.wrapsHour]
  rw [Pattern.acceptsRange, p.accepts_add_cycle hstart hstart', p.accepts_add_cycle hstop hstop',
    hwraps, Pattern.acceptsRange]
  cases hends : p.accepts start && p.accepts stop with
  | true => rfl
  | false =>
    cases hwrap : Sample.wrapsHour start stop with
    | false => rfl
    | true =>
      have hnext' := hnext hends hwrap
      rw [p.accepts_nextMidnight?_add_cycle
        (Instant.nextMidnight?_isSome_of_add_cycle hstop hnext') hnext']

theorem Span.containsInclusive_shift (s : Span) (ms t : Int) :
    (s.shift ms).containsInclusive (t + ms) = s.containsInclusive t := by
  simp only [Span.containsInclusive, Span.shift, Int.add_le_add_iff_right]

theorem Availability.hasQuota_add_cycle (a : Availability) (schedules : List Int)
    (h : (a.period? t).isSome) (h' : (a.period? (t + Instant.cycle)).isSome) :
    a.hasQuota (schedules.map (· + Instant.cycle)) (t + Instant.cycle) = a.hasQuota schedules t := by
  obtain ⟨span, hspan⟩ := Option.isSome_iff_exists.1 h
  have hmoved : a.period? (t + Instant.cycle) = some (span.shift Instant.cycle) := by
    rw [Availability.period?, Period.bucket?_add_cycle h h', ← Availability.period?, hspan,
      Option.map_some]
  have hcount : (schedules.map (· + Instant.cycle)).countP
      (span.shift Instant.cycle).containsInclusive = schedules.countP span.containsInclusive := by
    rw [List.countP_map]
    exact List.countP_congr fun t _ => by rw [Function.comp, Span.containsInclusive_shift]
  rw [Availability.hasQuota, hmoved, Availability.hasQuota, hspan]
  simp only [hcount]

end

/-- **Every decision about the calendar repeats itself after 400 years**, where what it looks at has dates:
an instant shows the same fields, its next midnight and its buckets move by 400 years, a pattern accepts
the same instants and ranges, and a quota that is asked about moved schedules gives the same answer. A
range needs a next midnight only if it does not have both its ends accepted and its hour goes back. -/
theorem Instant.cycle_keeps_decisions :
    (∀ t, Instant.isRepresentable t = true → Instant.isRepresentable (t + Instant.cycle) = true →
      Sample.ofInstant? (t + Instant.cycle) = Sample.ofInstant? t) ∧
    (∀ t, (Instant.nextMidnight? t).isSome → (Instant.nextMidnight? (t + Instant.cycle)).isSome →
      Instant.nextMidnight? (t + Instant.cycle) =
        (Instant.nextMidnight? t).map (· + Instant.cycle)) ∧
    (∀ (k : Period) t, (k.bucket? t).isSome → (k.bucket? (t + Instant.cycle)).isSome →
      k.bucket? (t + Instant.cycle) = (k.bucket? t).map (Span.shift Instant.cycle)) ∧
    (∀ (p : Pattern) t, Instant.isRepresentable t = true →
      Instant.isRepresentable (t + Instant.cycle) = true →
      p.accepts (t + Instant.cycle) = p.accepts t) ∧
    (∀ (p : Pattern) start stop, Instant.isRepresentable start = true →
      Instant.isRepresentable (start + Instant.cycle) = true →
      Instant.isRepresentable stop = true →
      Instant.isRepresentable (stop + Instant.cycle) = true →
      ((p.accepts start && p.accepts stop) = false → Sample.wrapsHour start stop = true →
        (Instant.nextMidnight? (stop + Instant.cycle)).isSome) →
      p.acceptsRange (start + Instant.cycle) (stop + Instant.cycle) = p.acceptsRange start stop) ∧
    ∀ (a : Availability) schedules now, (a.period? now).isSome →
      (a.period? (now + Instant.cycle)).isSome →
      a.hasQuota (schedules.map (· + Instant.cycle)) (now + Instant.cycle) =
        a.hasQuota schedules now :=
  ⟨fun _ => Sample.ofInstant?_add_cycle, fun _ => Instant.nextMidnight?_add_cycle,
    fun _ _ => Period.bucket?_add_cycle, fun p _ => p.accepts_add_cycle,
    fun p _ _ => p.acceptsRange_add_cycle, fun a schedules _ => a.hasQuota_add_cycle schedules⟩

/-- The last evening of February 1600 and of February 2000: a Tuesday, the 29th. -/
theorem Instant.cycle_keeps_decisions_leapDay :
    let evening : Int := -11670913800000
    let nights : Pattern := ⟨[.range 0 30 30], [.range 19 7 1], [.any], [.any], [.any]⟩
    evening + Instant.cycle = 951867000000 ∧
    Sample.ofInstant? (evening + Instant.cycle) = some ⟨30, 23, 29, 2, 2⟩ ∧
    Instant.nextMidnight? (evening + Instant.cycle) = some 951868800000 ∧
    Period.week.bucket? (evening + Instant.cycle) = some ⟨951609600000, 952214400000⟩ ∧
    nights.accepts (evening + Instant.cycle) = true ∧
    nights.acceptsRange (evening + Instant.cycle) (evening + 35100000 + Instant.cycle) = true ∧
    (Availability.ofQuota ⟨2, .week⟩).hasQuota ([evening, evening].map (· + Instant.cycle))
      (evening + Instant.cycle) = false := by
  intro evening nights
  obtain ⟨hsample, hmidnight, hbucket, haccepts, hrange, hquota⟩ := Instant.cycle_keeps_decisions
  have ht : Instant.isRepresentable evening = true := by decide
  have ht' : Instant.isRepresentable (evening + Instant.cycle) = true := by decide
  refine ⟨by decide, ?_, ?_, ?_, ?_, ?_, ?_⟩
  · rw [hsample evening ht ht']
    decide
  · rw [hmidnight evening (by decide) (by decide)]
    decide
  · rw [hbucket .week evening (by decide) (by decide)]
    decide
  · rw [haccepts nights evening ht ht']
    decide
  · -- the end, on 1 March at 9:15, is not accepted; the midnight after it is
    rw [hrange nights evening (evening + 35100000) ht ht' (by decide) (by decide)
      (fun _ _ => by decide)]
    decide
  · rw [hquota _ [evening, evening] evening (by decide) (by decide)]
    decide

end Booking
