import Booking.Time.Date
import Mathlib.Tactic.IntervalCases
/-!
# Dates and their numbers

Every day number is the number of exactly one valid date, and `Date.ofDayNumber` finds it: the
count by 400-year cycles from a first of March goes back over the count by years and months. From
this follows which days lie in a given year or month.
-/
namespace Booking

/-! ## Years -/

/-- The number of leap days in the year. -/
def Date.leapDay (year : Int) : Int := if Date.isLeapYear year then 1 else 0

theorem Date.leapDay_succ (y : Int) :
    Date.leapDay (y + 1) =
      (y + 1) / 4 - y / 4 - ((y + 1) / 100 - y / 100) + ((y + 1) / 400 - y / 400) := by
  unfold Date.leapDay Date.isLeapYear
  simp only [Bool.and_eq_true, Bool.or_eq_true, beq_iff_eq, bne_iff_ne]
  split <;> omega

theorem Date.daysBeforeYear_succ (y : Int) :
    Date.daysBeforeYear (y + 1) = Date.daysBeforeYear y + 365 + Date.leapDay y := by
  obtain ⟨x, rfl⟩ : ∃ x, y = x + 1 := ⟨y - 1, by omega⟩
  rw [Date.leapDay_succ]
  unfold Date.daysBeforeYear
  omega

theorem Date.daysBeforeYear_le {y y' : Int} (h : y ≤ y') :
    Date.daysBeforeYear y ≤ Date.daysBeforeYear y' := by
  unfold Date.daysBeforeYear
  omega

/-! ## Months -/

theorem Date.daysBeforeMonth_succ (y : Int) {m : Nat} (hm : 1 ≤ m) :
    Date.daysBeforeMonth y (m + 1) = Date.daysBeforeMonth y m + Date.monthLength y m := by
  obtain ⟨k, rfl⟩ := Nat.exists_eq_add_of_le' hm
  rfl

theorem Date.daysBeforeMonth_succ_le (y : Int) {m m' : Nat} (hm : 1 ≤ m) (h : m < m') :
    Date.daysBeforeMonth y m + Date.monthLength y m ≤ Date.daysBeforeMonth y m' := by
  induction m', h using Nat.le_induction with
  | base => exact Nat.le_of_eq (Date.daysBeforeMonth_succ y hm).symm
  | succ k hk ih =>
    rw [Date.daysBeforeMonth_succ y (Nat.le_trans hm (Nat.le_of_succ_le hk))]
    exact Nat.le_trans ih (Nat.le_add_right _ _)

theorem Date.daysBeforeMonth_thirteen (y : Int) :
    (Date.daysBeforeMonth y 13 : Int) = 365 + Date.leapDay y := by
  unfold Date.leapDay
  cases h : Date.isLeapYear y <;> simp [Date.daysBeforeMonth, Date.monthLength, h]

theorem Date.monthLength_february (y : Int) :
    (Date.monthLength y 2 : Int) = 28 + Date.leapDay y := by
  unfold Date.leapDay
  cases h : Date.isLeapYear y <;> simp [Date.monthLength, h]

theorem Date.isValid_iff {d : Date} :
    d.isValid = true ↔
      1 ≤ d.month ∧ d.month ≤ 12 ∧ 1 ≤ d.day ∧ d.day ≤ Date.monthLength d.year d.month := by
  simp only [Date.isValid, Bool.and_eq_true, decide_eq_true_eq, and_assoc]

/-- A valid date lies in its year. -/
theorem Date.dayNumber_mem_of_isValid {d : Date} (h : d.isValid = true) :
    Date.daysBeforeYear d.year ≤ d.dayNumber + 719528 ∧
      d.dayNumber + 719528 < Date.daysBeforeYear (d.year + 1) := by
  obtain ⟨hm, hm', hd, hd'⟩ := Date.isValid_iff.1 h
  have hle := Date.daysBeforeMonth_succ_le d.year hm (show d.month < 13 by omega)
  have hyear := Date.daysBeforeMonth_thirteen d.year
  rw [Date.daysBeforeYear_succ]
  unfold Date.dayNumber
  omega

/-- **Two valid dates with one number are one date.** -/
theorem Date.eq_of_dayNumber_eq {d d' : Date} (h : d.isValid = true) (h' : d'.isValid = true)
    (heq : d.dayNumber = d'.dayNumber) : d = d' := by
  have hmem := Date.dayNumber_mem_of_isValid h
  have hmem' := Date.dayNumber_mem_of_isValid h'
  obtain ⟨hm, -, hd, hd'⟩ := Date.isValid_iff.1 h
  obtain ⟨km, -, kd, kd'⟩ := Date.isValid_iff.1 h'
  have hyear : d.year = d'.year := by
    rcases lt_trichotomy d.year d'.year with hlt | hyear | hlt
    · have := Date.daysBeforeYear_le (Int.add_one_le_of_lt hlt); omega
    · exact hyear
    · have := Date.daysBeforeYear_le (Int.add_one_le_of_lt hlt); omega
  simp only [Date.dayNumber, hyear] at heq hd'
  have hmonth : d.month = d'.month := by
    rcases lt_trichotomy d.month d'.month with hlt | hmonth | hlt
    · have := Date.daysBeforeMonth_succ_le d'.year hm hlt; omega
    · exact hmonth
    · have := Date.daysBeforeMonth_succ_le d'.year km hlt; omega
  rw [hmonth] at heq
  have hday : d.day = d'.day := by omega
  cases d
  cases d'
  rw [Date.mk.injEq]
  exact ⟨hyear, hmonth, hday⟩

/-! ## The date of a number -/

/-- The date so many days after the first of March of the year. -/
def Date.afterMarch (year : Int) (days : Nat) : Date :=
  let monthOfYear := (5 * days + 2) / 153
  let month := if monthOfYear < 10 then monthOfYear + 3 else monthOfYear - 9
  { year := if month ≤ 2 then year + 1 else year
    month
    day := days - (153 * monthOfYear + 2) / 5 + 1 }

/-- The number of days from the first of March of year 0 to that of the given year. -/
def Date.daysBeforeMarch (year : Int) : Int := 365 * year + year / 4 - year / 100 + year / 400

theorem Date.daysBeforeYear_add_leapDay (y : Int) :
    Date.daysBeforeYear y + Date.leapDay y = Date.daysBeforeMarch y + 1 := by
  have hnext := Date.daysBeforeYear_succ y
  unfold Date.daysBeforeYear at *
  unfold Date.daysBeforeMarch
  omega

/-- From March to December, five months have 153 days. -/
theorem Date.daysBeforeMonth_fromMarch (y : Int) {k : Nat} (hk : k < 10) :
    (Date.daysBeforeMonth y (k + 3) : Int) = 59 + Date.leapDay y + ((153 * k + 2) / 5 : Nat) ∧
      (153 * (k + 1) + 2) / 5 = (153 * k + 2) / 5 + Date.monthLength y (k + 3) := by
  unfold Date.leapDay
  cases h : Date.isLeapYear y <;> interval_cases k <;>
    simp [Date.daysBeforeMonth, Date.monthLength, h]

/-- **A year that starts in March ends with its leap day**, so its days have the lengths of the months
one after the other. -/
theorem Date.afterMarch_spec {y : Int} {k : Nat}
    (hk : (k : Int) < 365 + Date.leapDay (y + 1)) :
    (Date.afterMarch y k).isValid = true ∧
      (Date.afterMarch y k).dayNumber = Date.daysBeforeMarch y + k - 719468 := by
  have hmarch := Date.daysBeforeYear_add_leapDay y
  have hnext := Date.daysBeforeYear_succ y
  have hleap : Date.leapDay (y + 1) ≤ 1 := by unfold Date.leapDay; split <;> decide
  rw [Date.isValid_iff]
  unfold Date.afterMarch Date.dayNumber
  obtain ⟨month, hmonth⟩ : ∃ month, (5 * k + 2) / 153 = month := ⟨_, rfl⟩
  simp only [hmonth]
  rcases Nat.lt_or_ge month 10 with hlt | hge
  · obtain ⟨hbefore, hlength⟩ := Date.daysBeforeMonth_fromMarch y hlt
    have hyear : ¬ month + 3 ≤ 2 := by omega
    simp only [hlt, hyear, if_true, if_false, hbefore]
    omega
  · have hlt : ¬ month < 10 := by omega
    have hyear : month - 9 ≤ 2 := by omega
    simp only [hlt, hyear, if_true, if_false]
    have hjanuary : Date.monthLength (y + 1) 1 = 31 := rfl
    have hfebruary := Date.monthLength_february (y + 1)
    obtain rfl | rfl : month = 10 ∨ month = 11 := by omega
    · simp only [Nat.reduceSub, Date.daysBeforeMonth]
      omega
    · simp only [Nat.reduceSub, Date.daysBeforeMonth, Nat.zero_add]
      omega

/-- The cycle of 400 years: where the days of a year begin and end. -/
theorem Date.yearOfCycle_spec {e y : Nat} (he : e < 146097)
    (hy : y = (e - e / 1460 + e / 36524 - e / 146096) / 365) :
    y < 400 ∧ 365 * y + y / 4 - y / 100 ≤ e ∧
      e < 365 * (y + 1) + (y + 1) / 4 - (y + 1) / 100 + (y + 1) / 400 := by
  by_cases hlast : e = 146096
  · subst hlast; subst hy; decide
  have hcycle : e / 146096 = 0 := by omega
  obtain ⟨c, hc⟩ : ∃ c, e / 36524 = c := ⟨_, rfl⟩
  have hc3 : c ≤ 3 := by omega
  rw [hcycle, hc] at hy
  have hfirst : 100 * c ≤ y := by omega
  have hlt : y < 100 * c + 100 := by omega
  have hcentury : y / 100 = c := by omega
  refine ⟨by omega, by omega, ?_⟩
  by_cases h : y = 100 * c + 99
  · have h1 : (y + 1) / 100 = c + 1 := by omega
    have h2 : (y + 1) / 4 = 25 * c + 25 := by omega
    omega
  · have h1 : (y + 1) / 100 = c := by omega
    have h2 : (y + 1) / 400 = 0 := by omega
    omega

/-- The quotients of a year by 4, 100 and 400, from those of its place in the cycle. -/
theorem Date.daysBeforeMarch_cycle (c : Int) (y : Nat) :
    Date.daysBeforeMarch (c * 400 + y) = 146097 * c + (365 * y + y / 4 - y / 100 + y / 400 : Nat) := by
  have h4 : (c * 400 + y) / 4 = c * 100 + y / 4 := by omega
  have h100 : (c * 400 + y) / 100 = c * 4 + y / 100 := by omega
  have h400 : (c * 400 + y) / 400 = c + y / 400 := by omega
  unfold Date.daysBeforeMarch
  omega

theorem Date.daysBeforeMarch_succ (y : Int) :
    Date.daysBeforeMarch (y + 1) = Date.daysBeforeMarch y + 365 + Date.leapDay (y + 1) := by
  rw [Date.leapDay_succ]
  unfold Date.daysBeforeMarch
  omega

theorem Date.exists_afterMarch (n : Int) :
    ∃ (y : Int) (k : Nat), Date.ofDayNumber n = Date.afterMarch y k ∧
      (k : Int) < 365 + Date.leapDay (y + 1) ∧ n = Date.daysBeforeMarch y + k - 719468 := by
  obtain ⟨e, he⟩ : ∃ e, ((n + 719468) % 146097).toNat = e := ⟨_, rfl⟩
  have hn : n = 146097 * ((n + 719468) / 146097) + e - 719468 := by omega
  have hlt : e < 146097 := by omega
  obtain ⟨y, hy⟩ : ∃ y, (e - e / 1460 + e / 36524 - e / 146096) / 365 = y := ⟨_, rfl⟩
  obtain ⟨hy400, hfirst, hnext⟩ := Date.yearOfCycle_spec hlt hy.symm
  have hmarch := Date.daysBeforeMarch_cycle ((n + 719468) / 146097) y
  have hmarch' := Date.daysBeforeMarch_cycle ((n + 719468) / 146097) (y + 1)
  have hsucc := Date.daysBeforeMarch_succ ((n + 719468) / 146097 * 400 + y)
  rw [Nat.div_eq_of_lt hy400, Nat.add_zero] at hmarch
  rw [Nat.cast_succ, ← Int.add_assoc, hsucc, hmarch] at hmarch'
  refine ⟨(n + 719468) / 146097 * 400 + y, e - (365 * y + y / 4 - y / 100), ?_, ?_, ?_⟩
  · rw [← hy, ← he]
    rfl
  · generalize 365 * y + y / 4 - y / 100 = first at *
    generalize 365 * (y + 1) + (y + 1) / 4 - (y + 1) / 100 + (y + 1) / 400 = next at *
    omega
  · rw [hmarch]
    generalize 365 * y + y / 4 - y / 100 = first at *
    omega

theorem Date.isValid_ofDayNumber (n : Int) : (Date.ofDayNumber n).isValid = true := by
  obtain ⟨y, k, h, hk, -⟩ := Date.exists_afterMarch n
  rw [h]
  exact (Date.afterMarch_spec hk).1

theorem Date.dayNumber_ofDayNumber (n : Int) : (Date.ofDayNumber n).dayNumber = n := by
  obtain ⟨y, k, h, hk, hn⟩ := Date.exists_afterMarch n
  rw [h, (Date.afterMarch_spec hk).2, hn]

/-- **The date of a day number is the only valid date with this number.** -/
theorem Date.ofDayNumber_eq_iff {n : Int} {d : Date} :
    Date.ofDayNumber n = d ↔ d.isValid = true ∧ d.dayNumber = n := by
  constructor
  · rintro rfl
    exact ⟨Date.isValid_ofDayNumber n, Date.dayNumber_ofDayNumber n⟩
  · rintro ⟨h, rfl⟩
    exact Date.eq_of_dayNumber_eq (Date.isValid_ofDayNumber _) h (Date.dayNumber_ofDayNumber _)

/-! ## The days of a year and of a month -/

theorem Date.dayNumber_newYear (y : Int) :
    Date.dayNumber ⟨y, 1, 1⟩ = Date.daysBeforeYear y - 719528 := by
  simp [Date.dayNumber, Date.daysBeforeMonth]

/-- **A day lies in a year or later if it does not lie before the year's first day.** -/
theorem Date.le_year_ofDayNumber_iff {y n : Int} :
    y ≤ (Date.ofDayNumber n).year ↔ Date.dayNumber ⟨y, 1, 1⟩ ≤ n := by
  have hmem := Date.dayNumber_mem_of_isValid (Date.isValid_ofDayNumber n)
  rw [Date.dayNumber_ofDayNumber] at hmem
  rw [Date.dayNumber_newYear]
  constructor
  · intro h
    have := Date.daysBeforeYear_le h
    omega
  · intro h
    by_contra hlt
    have := Date.daysBeforeYear_le (Int.add_one_le_of_lt (Int.not_le.1 hlt))
    omega

theorem Date.hasDay_iff_year {n : Int} :
    Date.hasDay n = true ↔
      -262143 ≤ (Date.ofDayNumber n).year ∧ (Date.ofDayNumber n).year ≤ 262142 := by
  have hfirst : Date.dayNumber ⟨-262143, 1, 1⟩ = Date.firstDay := by decide
  have hlast : Date.dayNumber ⟨262143, 1, 1⟩ = Date.lastDay + 1 := by decide
  have hafter := Date.le_year_ofDayNumber_iff (y := 262143) (n := n)
  rw [Date.le_year_ofDayNumber_iff, hfirst]
  rw [hlast] at hafter
  simp only [Date.hasDay, Bool.and_eq_true, decide_eq_true_eq]
  omega

theorem Date.ofDayNumber_newYear (y : Int) :
    Date.ofDayNumber (Date.dayNumber ⟨y, 1, 1⟩) = ⟨y, 1, 1⟩ :=
  Date.ofDayNumber_eq_iff.2 ⟨by simp [Date.isValid, Date.monthLength], rfl⟩

/-- The days after a date in its month. -/
theorem Date.ofDayNumber_add {d : Date} (h : d.isValid = true) {k : Int}
    (hfirst : 1 ≤ d.day + k) (hlast : d.day + k ≤ Date.monthLength d.year d.month) :
    Date.ofDayNumber (d.dayNumber + k) = { d with day := (d.day + k).toNat } := by
  obtain ⟨hm, hm', -, -⟩ := Date.isValid_iff.1 h
  refine Date.ofDayNumber_eq_iff.2 ⟨Date.isValid_iff.2 ⟨hm, hm', ?_, ?_⟩, ?_⟩
  · show 1 ≤ (d.day + k).toNat
    omega
  · show (d.day + k).toNat ≤ Date.monthLength d.year d.month
    omega
  · simp only [Date.dayNumber]
    omega

theorem Date.monthLength_pos (y : Int) (m : Nat) : 1 ≤ Date.monthLength y m := by
  unfold Date.monthLength
  split
  · split <;> decide
  all_goals decide

theorem Date.monthLength_le (y : Int) (m : Nat) : Date.monthLength y m ≤ 31 := by
  unfold Date.monthLength
  split
  · split <;> decide
  all_goals decide

/-- The first day of the month after the date's. -/
def Date.nextMonth (d : Date) : Date :=
  if d.month = 12 then ⟨d.year + 1, 1, 1⟩ else ⟨d.year, d.month + 1, 1⟩

theorem Date.nextMonth_spec {d : Date} (h : d.isValid = true) :
    d.nextMonth.isValid = true ∧
      d.nextMonth.dayNumber = d.dayNumber + (Date.monthLength d.year d.month + 1 - d.day) := by
  obtain ⟨hm, hm', -, -⟩ := Date.isValid_iff.1 h
  have hmonth := Date.daysBeforeMonth_succ d.year hm
  rw [Date.isValid_iff]
  unfold Date.nextMonth
  split
  · rename_i hlast
    have hyear : (Date.daysBeforeMonth d.year (12 + 1) : Int) = 365 + Date.leapDay d.year :=
      Date.daysBeforeMonth_thirteen d.year
    have hnext := Date.daysBeforeYear_succ d.year
    rw [hlast] at hmonth
    rw [Date.dayNumber_newYear, Date.dayNumber, hlast]
    exact ⟨⟨Nat.le_refl 1, Nat.le_add_left 1 11, Nat.le_refl 1, Date.monthLength_pos _ _⟩, by omega⟩
  · rename_i hlast
    have hle : d.month + 1 ≤ 12 := by omega
    refine ⟨⟨Nat.le_add_left 1 d.month, hle, Nat.le_refl 1, Date.monthLength_pos _ _⟩, ?_⟩
    simp only [Date.dayNumber]
    omega

end Booking
