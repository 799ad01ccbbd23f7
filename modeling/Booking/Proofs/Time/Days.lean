import Booking.Proofs.Time.Calendar
import Booking.Time.Instant
/-!
# From day to day

The calendar without any count of days: `Date.tomorrow` goes on to the next day of the month, or to the
first day of the next one. The numbers of dates follow it from 1970-01-01 on, and back from there
(`Date.dayNumber_tomorrow`), and so do the dates of instants (`Date.ofDayNumber_succ`). What a sample
shows of an instant, and of the midnight after it, is read off this calendar
(`Sample.shows_calendar`).
-/
namespace Booking

/-- The day after a date. -/
def Date.tomorrow (d : Date) : Date :=
  if d.day < Date.monthLength d.year d.month then { d with day := d.day + 1 } else d.nextMonth

/-- How long the months are: February has a day more in years divisible by 4 and not by 100 unless by
400. -/
theorem Date.monthLength_eq (y : Int) (m : Nat) :
    Date.monthLength y m =
      if m = 2 then if 4 ∣ y ∧ (¬ 100 ∣ y ∨ 400 ∣ y) then 29 else 28
      else if m ∈ [4, 6, 9, 11] then 30 else 31 := by
  have hleap : Date.isLeapYear y = true ↔ 4 ∣ y ∧ (¬ 100 ∣ y ∨ 400 ∣ y) := by
    simp only [Date.isLeapYear, Bool.and_eq_true, Bool.or_eq_true, beq_iff_eq, bne_iff_ne,
      Int.dvd_iff_emod_eq_zero, ne_eq]
  unfold Date.monthLength
  split
  · simp only [hleap, if_true]
  · rfl
  · rfl
  · rfl
  · rfl
  · rename_i hfebruary hapril hjune hseptember hnovember
    have hlong : m ∉ [4, 6, 9, 11] := by
      simp only [List.mem_cons, List.not_mem_nil, or_false, not_or]
      exact ⟨hapril, hjune, hseptember, hnovember⟩
    rw [if_neg hfebruary, if_neg hlong]

/-- **The day after a date has the next number.** -/
theorem Date.dayNumber_tomorrow {d : Date} (h : d.isValid = true) :
    d.tomorrow.isValid = true ∧ d.tomorrow.dayNumber = d.dayNumber + 1 := by
  obtain ⟨hm, hm', hd, hd'⟩ := Date.isValid_iff.1 h
  unfold Date.tomorrow
  split
  · rename_i hlt
    refine ⟨Date.isValid_iff.2 ⟨hm, hm', Nat.le_add_left 1 d.day, hlt⟩, ?_⟩
    simp only [Date.dayNumber]
    omega
  · rename_i hlast
    obtain ⟨hvalid, hnumber⟩ := Date.nextMonth_spec h
    exact ⟨hvalid, by omega⟩

theorem Date.ofDayNumber_succ (n : Int) :
    Date.ofDayNumber (n + 1) = (Date.ofDayNumber n).tomorrow := by
  obtain ⟨hvalid, hnumber⟩ := Date.dayNumber_tomorrow (Date.isValid_ofDayNumber n)
  rw [Date.dayNumber_ofDayNumber] at hnumber
  exact Date.ofDayNumber_eq_iff.2 ⟨hvalid, hnumber⟩

theorem Date.weekday_succ (n : Int) : Date.weekday (n + 1) = (Date.weekday n + 1) % 7 := by
  unfold Date.weekday
  omega

/-! ## Samples -/

/-- What a sample is taken of. -/
theorem Sample.exists_ofInstant? {t : Int} (ht : Instant.isRepresentable t = true) :
    ∃ s, Sample.ofInstant? t = some s ∧ (s.minute : Int) = t / 60000 % 60 ∧
      (s.hour : Int) = t / 3600000 % 24 ∧ s.weekday = Date.weekday (t / 86400000) ∧
      s.month = (Date.ofDayNumber (t / 86400000)).month ∧
      s.day = (Date.ofDayNumber (t / 86400000)).day := by
  refine ⟨_, if_pos ht, ?_, ?_, rfl, rfl, rfl⟩ <;>
    simp only [Instant.msPerMinute, Instant.msPerHour] <;> omega

theorem Instant.nextMidnight?_eq {t : Int} (ht : Instant.isRepresentable t = true) :
    Instant.nextMidnight? t =
      if Date.hasDay (t / 86400000 + 1) then some ((t / 86400000 + 1) * 86400000) else none := by
  have hday : Date.hasDay (Instant.dayNumber t) = true := ht
  simp only [Instant.nextMidnight?, hday, Bool.true_and]
  rfl

/-- **A sample shows the calendar.** Minute, hour and weekday are read off the count of milliseconds,
rounded down, and month and day belong to the one date whose number is that of the day: the first of
January 1970 is day 0, and each date is followed by the next day of its month or, exactly if it is the
last one, by the first day of the next month. The midnight after the instant shows this, if that day has
a date too; if not, there is no such midnight. -/
theorem Sample.shows_calendar (t : Int) (ht : Instant.isRepresentable t = true) :
    let n := t / 86400000
    let midnight := (n + 1) * 86400000
    ∃ s d, Sample.ofInstant? t = some s ∧
      ((s.minute : Int) = t / 60000 % 60 ∧ (s.hour : Int) = t / 3600000 % 24 ∧
        (s.weekday : Int) = (n + 4) % 7) ∧
      (s.month = d.month ∧ s.day = d.day) ∧
      (∀ d' : Date, d'.isValid = true ∧ d'.dayNumber = n ↔ d' = d) ∧
      (Date.dayNumber ⟨1970, 1, 1⟩ = 0 ∧
        ∀ d' : Date, d'.isValid = true →
          d'.tomorrow.isValid = true ∧ d'.tomorrow.dayNumber = d'.dayNumber + 1) ∧
      (∀ y m, Date.monthLength y m =
        if m = 2 then if 4 ∣ y ∧ (¬ 100 ∣ y ∨ 400 ∣ y) then 29 else 28
        else if m ∈ [4, 6, 9, 11] then 30 else 31) ∧
      (Date.hasDay (n + 1) = false → Instant.nextMidnight? t = none) ∧
      (Date.hasDay (n + 1) = true → Instant.nextMidnight? t = some midnight ∧
        ∃ s', Sample.ofInstant? midnight = some s' ∧ s'.minute = 0 ∧ s'.hour = 0 ∧
          s'.weekday = (s.weekday + 1) % 7 ∧
          (s.day < Date.monthLength d.year d.month ∧ s'.day = s.day + 1 ∧ s'.month = s.month ∨
            s.day = Date.monthLength d.year d.month ∧ s'.day = 1 ∧
              s'.month = if s.month = 12 then 1 else s.month + 1)) := by
  intro n midnight
  obtain ⟨s, hs, hminute, hhour, hweekday, hmonth, hday⟩ := Sample.exists_ofInstant? ht
  have hvalid := Date.isValid_ofDayNumber n
  refine ⟨s, Date.ofDayNumber n, hs, ⟨hminute, hhour, ?_⟩, ⟨hmonth, hday⟩, fun d' => ?_,
    ⟨by decide, fun d' => Date.dayNumber_tomorrow⟩, Date.monthLength_eq, fun hnext => ?_,
    fun hnext => ⟨?_, ?_⟩⟩
  · rw [hweekday]
    exact Int.toNat_of_nonneg (by omega)
  · rw [eq_comm (a := d'), Date.ofDayNumber_eq_iff]
  · rw [Instant.nextMidnight?_eq ht, if_neg (by rw [hnext]; decide)]
  · rw [Instant.nextMidnight?_eq ht, if_pos hnext]
  -- the sample of the midnight is that of the day after
  have hmidnight : midnight = (n + 1) * 86400000 := rfl
  have hsame : midnight / 86400000 = n + 1 := by omega
  have hrepresentable : Instant.isRepresentable midnight = true := by
    rw [← hnext, ← hsame]
    rfl
  obtain ⟨s', hs', hminute', hhour', hweekday', hmonth', hday'⟩ :=
    Sample.exists_ofInstant? hrepresentable
  rw [hsame] at hweekday' hmonth' hday'
  refine ⟨s', hs', by omega, by omega, ?_, ?_⟩
  · rw [hweekday', hweekday, Date.weekday_succ]
  rw [hmonth, hday, hmonth', hday', Date.ofDayNumber_succ, Date.tomorrow]
  obtain ⟨-, -, -, hle⟩ := Date.isValid_iff.1 hvalid
  split
  · rename_i hlt
    exact .inl ⟨hlt, rfl, rfl⟩
  · rename_i hlast
    refine .inr ⟨Nat.le_antisymm hle (Nat.not_lt.1 hlast), ?_⟩
    unfold Date.nextMonth
    split <;> exact ⟨rfl, rfl⟩

/-- The last millisecond of 1900-02-28, a Wednesday: the year is divisible by 100, but not by 400. -/
theorem Sample.shows_calendar_lastOfFebruary :
    ∃ t, t = -2203891200001 ∧ Instant.isRepresentable t = true ∧
      Date.hasDay (t / 86400000 + 1) = true ∧
      ∃ s s', Sample.ofInstant? t = some s ∧ (s.month = 2 ∧ s.day = 28 ∧ s.weekday = 3) ∧
        Instant.nextMidnight? t = some (-2203891200000) ∧
        Sample.ofInstant? (-2203891200000) = some s' ∧
        (s'.month = 3 ∧ s'.day = 1 ∧ s'.weekday = 4) := by
  have ht : Instant.isRepresentable (-2203891200001) = true := by decide
  have hnext : Date.hasDay (-2203891200001 / 86400000 + 1) = true := by decide
  obtain ⟨s, d, hs, ⟨-, -, hweekday⟩, ⟨hmonth, hday⟩, hdate, -, -, -, htomorrow⟩ :=
    Sample.shows_calendar (-2203891200001) ht
  obtain ⟨hmidnight, s', hs', -, -, hweekday', hstep⟩ := htomorrow hnext
  obtain rfl : (⟨1900, 2, 28⟩ : Date) = d := (hdate _).1 (by decide)
  have hlast : s.day = Date.monthLength 1900 2 := by rw [hday]; decide
  rw [show (-2203891200001 / 86400000 + 1) * 86400000 = (-2203891200000 : Int) by decide]
    at hmidnight hs'
  refine ⟨_, rfl, ht, hnext, s, s', hs, ⟨hmonth, hday, by omega⟩, hmidnight, hs', ?_⟩
  rcases hstep with ⟨hlt, -⟩ | ⟨-, hday', hmonth'⟩
  · exact absurd hlast (Nat.ne_of_lt hlt)
  · rw [hmonth] at hmonth'
    exact ⟨hmonth', hday', by omega⟩

end Booking
