import Booking.Proofs.Time.Calendar
import Booking.Time.Period
/-!
# Buckets

A bucket of a period runs from a day on which one begins to the next such day. `Period.days` finds
the one bucket around a day (`Period.isBucket_days`, `Period.IsBucket.days_eq`), so the buckets of a
period lie on the time line without gap or overlap, as far as there are dates
(`Period.buckets_tile`).
-/
namespace Booking

/-- A bucket of the period begins on the day: on every day, on a Sunday, on the first of a month, on
the first of January. -/
def Period.BeginsOn (p : Period) (n : Int) : Prop :=
  match p with
  | .day => True
  | .week => Date.weekday n = 0
  | .month => (Date.ofDayNumber n).day = 1
  | .year => (Date.ofDayNumber n).month = 1 ∧ (Date.ofDayNumber n).day = 1

/-- **The days from `first` to before `next` are a bucket of the period**: one begins on each of the
two days and on no day between them. -/
structure Period.IsBucket (p : Period) (first next : Int) : Prop where
  begins : p.BeginsOn first
  ends : p.BeginsOn next
  lt : first < next
  within : ∀ n, first < n → n < next → ¬ p.BeginsOn n

theorem Period.IsBucket.eq_of_beginsOn {p : Period} {first next n : Int}
    (h : p.IsBucket first next) (hn : p.BeginsOn n) (hfirst : first ≤ n) (hnext : n < next) :
    n = first := by
  by_contra hne
  exact h.within n (lt_of_le_of_ne hfirst (Ne.symm hne)) hnext hn

/-- Two buckets around one day are the same. -/
theorem Period.IsBucket.unique {p : Period} {first next first' next' n : Int}
    (h : p.IsBucket first next) (h' : p.IsBucket first' next') (hfirst : first ≤ n)
    (hnext : n < next) (hfirst' : first' ≤ n) (hnext' : n < next') :
    first = first' ∧ next = next' := by
  have hf : first = first' := by
    rcases Int.le_total first first' with hle | hle
    · exact (h.eq_of_beginsOn h'.begins hle (by omega)).symm
    · exact h'.eq_of_beginsOn h.begins hle (by omega)
  refine ⟨hf, ?_⟩
  subst hf
  rcases lt_trichotomy next next' with hlt | heq | hlt
  · exact absurd h.ends (h'.within next h.lt hlt)
  · exact heq
  · exact absurd h'.ends (h.within next' h'.lt hlt)

/-! ## The four periods -/

theorem Period.isBucket_day (n : Int) : Period.day.IsBucket n (n + 1) where
  begins := trivial
  ends := trivial
  lt := by omega
  within k hk hk' := by omega

theorem Period.isBucket_week (n : Int) :
    Period.week.IsBucket (n - Date.weekday n) (n - Date.weekday n + 7) := by
  refine ⟨?_, ?_, by omega, fun k hk hk' => ?_⟩ <;>
    simp only [Period.BeginsOn, Date.weekday] at * <;> omega

theorem Period.isBucket_month {d : Date} (h : d.isValid = true) :
    Period.month.IsBucket (d.dayNumber - (d.day - 1))
      (d.dayNumber - (d.day - 1) + Date.monthLength d.year d.month) := by
  obtain ⟨-, -, hd, hd'⟩ := Date.isValid_iff.1 h
  obtain ⟨hvalid, hnumber⟩ := Date.nextMonth_spec h
  have hnext : d.nextMonth.dayNumber =
      d.dayNumber - (d.day - 1) + Date.monthLength d.year d.month := by omega
  have hday : d.nextMonth.day = 1 := by unfold Date.nextMonth; split <;> rfl
  have hdays : ∀ k : Int, 1 ≤ d.day + k → d.day + k ≤ Date.monthLength d.year d.month →
      ((Date.ofDayNumber (d.dayNumber + k)).day : Int) = d.day + k := by
    intro k hk hk'
    rw [Date.ofDayNumber_add h hk hk']
    exact Int.toNat_of_nonneg (by omega)
  refine ⟨?_, ?_, by omega, fun n hn hn' hbegins => ?_⟩
  · have := hdays (-(d.day - 1)) (by omega) (by omega)
    simp only [Period.BeginsOn, Int.sub_eq_add_neg] at this ⊢
    omega
  · rw [← hnext, Period.BeginsOn, Date.ofDayNumber_eq_iff.2 ⟨hvalid, rfl⟩]
    exact hday
  · have := hdays (n - d.dayNumber) (by omega) (by omega)
    rw [show d.dayNumber + (n - d.dayNumber) = n by omega] at this
    rw [Period.BeginsOn] at hbegins
    omega

theorem Period.isBucket_year (y : Int) :
    Period.year.IsBucket (Date.dayNumber ⟨y, 1, 1⟩) (Date.dayNumber ⟨y + 1, 1, 1⟩) := by
  have hbegins : ∀ y, Period.year.BeginsOn (Date.dayNumber ⟨y, 1, 1⟩) := by
    intro y
    rw [Period.BeginsOn, Date.ofDayNumber_newYear]
    exact ⟨rfl, rfl⟩
  refine ⟨hbegins y, hbegins (y + 1), ?_, fun n hn hn' => ?_⟩
  · have := Date.daysBeforeYear_succ y
    have : 0 ≤ Date.leapDay y := by unfold Date.leapDay; split <;> decide
    rw [Date.dayNumber_newYear, Date.dayNumber_newYear]
    omega
  · -- a day of the year that is a first of January is its first day
    rintro ⟨hmonth, hday⟩
    have hle := Date.le_year_ofDayNumber_iff.2 (Int.le_of_lt hn)
    have hlt : ¬ y + 1 ≤ (Date.ofDayNumber n).year := by
      rw [Date.le_year_ofDayNumber_iff]
      omega
    have hyear : (Date.ofDayNumber n).year = y := by omega
    have hdate : Date.ofDayNumber n = ⟨y, 1, 1⟩ := calc
      Date.ofDayNumber n = ⟨(Date.ofDayNumber n).year, (Date.ofDayNumber n).month,
        (Date.ofDayNumber n).day⟩ := rfl
      _ = ⟨y, 1, 1⟩ := by rw [hyear, hmonth, hday]
    rw [← Date.dayNumber_ofDayNumber n, hdate] at hn
    omega

/-- **The days that are found around a day are the bucket that holds it.** -/
theorem Period.isBucket_days (p : Period) (n : Int) :
    p.IsBucket (p.days n).1 (p.days n).2 ∧ (p.days n).1 ≤ n ∧ n < (p.days n).2 := by
  have hvalid := Date.isValid_ofDayNumber n
  have hnumber := Date.dayNumber_ofDayNumber n
  cases p with
  | day => exact ⟨Period.isBucket_day n, by simp [Period.days], by simp [Period.days]⟩
  | week =>
    refine ⟨Period.isBucket_week n, ?_, ?_⟩ <;> simp only [Period.days, Date.weekday] <;> omega
  | month =>
    have hbucket := Period.isBucket_month hvalid
    obtain ⟨-, -, hd, hd'⟩ := Date.isValid_iff.1 hvalid
    rw [hnumber] at hbucket
    refine ⟨hbucket, ?_, ?_⟩ <;> simp only [Period.days] <;> omega
  | year =>
    refine ⟨Period.isBucket_year _, ?_, ?_⟩
    · exact Date.le_year_ofDayNumber_iff.1 (Int.le_refl _)
    · refine Int.not_le.1 (fun hle => ?_)
      have := Date.le_year_ofDayNumber_iff.2 hle
      omega

theorem Period.IsBucket.days_eq {p : Period} {first next n : Int} (h : p.IsBucket first next)
    (hfirst : first ≤ n) (hnext : n < next) : p.days n = (first, next) := by
  obtain ⟨hbucket, hle, hlt⟩ := p.isBucket_days n
  obtain ⟨hf, hn⟩ := hbucket.unique h hle hlt hfirst hnext
  exact Prod.ext hf hn

/-! ## Spans of time -/

theorem Date.hasDay_of_between {first n next : Int} (h : Date.hasDay first = true)
    (h' : Date.hasDay next = true) (hfirst : first ≤ n) (hnext : n < next) :
    Date.hasDay n = true := by
  simp only [Date.hasDay, Bool.and_eq_true, decide_eq_true_eq] at *
  omega

/-- **An instant has the span of the bucket that holds its day**, if both ends have dates. -/
theorem Period.bucket?_eq_some_iff {p : Period} {t : Int} {span : Span} :
    p.bucket? t = some span ↔
      ∃ first next, p.IsBucket first next ∧ first ≤ Instant.dayNumber t ∧
        Instant.dayNumber t < next ∧ Date.hasDay first = true ∧ Date.hasDay next = true ∧
        span = ⟨Instant.ofDayNumber first, Instant.ofDayNumber next⟩ := by
  unfold Period.bucket?
  constructor
  · intro h
    simp only [Option.ite_none_right_eq_some, Option.some.injEq, Bool.and_eq_true] at h
    obtain ⟨⟨⟨-, hfirst⟩, hnext⟩, rfl⟩ := h
    obtain ⟨hbucket, hle, hlt⟩ := p.isBucket_days (Instant.dayNumber t)
    exact ⟨_, _, hbucket, hle, hlt, hfirst, hnext, rfl⟩
  · rintro ⟨first, next, hbucket, hle, hlt, hfirst, hnext, rfl⟩
    have hday := Date.hasDay_of_between hfirst hnext hle hlt
    simp only [hbucket.days_eq hle hlt, hday, hfirst, hnext, Bool.and_self, if_true]

theorem Period.bucket?_eq_none_iff_days {p : Period} {t : Int} :
    p.bucket? t = none ↔
      Instant.isRepresentable t = false ∨ Date.hasDay (p.days (Instant.dayNumber t)).1 = false ∨
        Date.hasDay (p.days (Instant.dayNumber t)).2 = false := by
  unfold Period.bucket? Instant.isRepresentable
  simp only [ite_eq_right_iff, reduceCtorEq, imp_false, Bool.and_eq_true, not_and_or,
    Bool.not_eq_true, or_assoc]

theorem Period.mem_of_bucket? {p : Period} {t : Int} {span : Span} (h : p.bucket? t = some span) :
    span.start ≤ t ∧ t < span.stop := by
  obtain ⟨first, next, -, hle, hlt, -, -, rfl⟩ := Period.bucket?_eq_some_iff.1 h
  exact Instant.dayNumber_mem_iff.1 ⟨hle, hlt⟩

/-- The length of a period's spans, and on which dates they start and stop. -/
def Period.Measures (p : Period) (span : Span) : Prop :=
  match p with
  | .day => span.stop = span.start + Instant.msPerDay
  | .week =>
    span.stop = span.start + 7 * Instant.msPerDay ∧
      Date.weekday (Instant.dayNumber span.start) = 0
  | .month =>
    (Instant.date span.start).day = 1 ∧
      Instant.date span.stop = (Instant.date span.start).nextMonth
  | .year =>
    ∃ y, Instant.date span.start = ⟨y, 1, 1⟩ ∧ Instant.date span.stop = ⟨y + 1, 1, 1⟩

/-- The date is one from -262143-01-01 to 262142-12-31. -/
def Date.IsRepresentable (d : Date) : Prop := -262143 ≤ d.year ∧ d.year ≤ 262142

theorem Date.not_isRepresentable_iff {n : Int} :
    ¬ (Date.ofDayNumber n).IsRepresentable ↔ Date.hasDay n = false := by
  rw [Date.IsRepresentable, ← Date.hasDay_iff_year, Bool.not_eq_true]

theorem Period.IsBucket.measures {p : Period} {first next : Int} (h : p.IsBucket first next) :
    p.Measures ⟨Instant.ofDayNumber first, Instant.ofDayNumber next⟩ := by
  have hdays : p.days first = (first, next) := h.days_eq (Int.le_refl _) h.lt
  simp only [Period.Measures, Instant.date, Instant.dayNumber_ofDayNumber]
  cases p with
  | day =>
    obtain ⟨-, rfl⟩ := Prod.mk.inj hdays
    simp only [Instant.ofDayNumber, Instant.msPerDay]
    omega
  | week =>
    have hsunday : Date.weekday first = 0 := h.begins
    obtain ⟨-, rfl⟩ := Prod.mk.inj hdays
    refine ⟨?_, hsunday⟩
    rw [hsunday]
    simp only [Instant.ofDayNumber, Instant.msPerDay]
    omega
  | month =>
    have hvalid := Date.isValid_ofDayNumber first
    have hday : (Date.ofDayNumber first).day = 1 := h.begins
    obtain ⟨hnext, hnumber⟩ := Date.nextMonth_spec hvalid
    obtain ⟨hfirst, hstop⟩ := Prod.mk.inj hdays
    rw [Date.dayNumber_ofDayNumber] at hnumber
    exact ⟨hday, Date.ofDayNumber_eq_iff.2 ⟨hnext, by omega⟩⟩
  | year =>
    obtain ⟨hfirst, hnext⟩ := Prod.mk.inj hdays
    refine ⟨(Date.ofDayNumber first).year, ?_, ?_⟩
    · have := Date.ofDayNumber_newYear (Date.ofDayNumber first).year
      rwa [hfirst] at this
    · have := Date.ofDayNumber_newYear ((Date.ofDayNumber first).year + 1)
      rwa [hnext] at this

/-- **The buckets of a period tile the time line.** An instant lies in its bucket, whose ends are the
midnights of two days on which buckets begin, one after the other; the instants of the bucket are
those that have it, and the bucket of its stop starts there. An instant has no bucket only where it
has no date itself, or an end of the bucket around it has none. -/
theorem Period.buckets_tile (p : Period) :
    (∀ t span, p.bucket? t = some span →
      (span.start ≤ t ∧ t < span.stop) ∧
      (∃ first next, p.IsBucket first next ∧
        span = ⟨Instant.ofDayNumber first, Instant.ofDayNumber next⟩) ∧
      p.Measures span ∧
      (∀ t', p.bucket? t' = some span ↔ span.start ≤ t' ∧ t' < span.stop) ∧
      ∀ span', p.bucket? span.stop = some span' → span'.start = span.stop) ∧
    ∀ t, p.bucket? t = none ↔
      Instant.isRepresentable t = false ∨
      ∃ first next, p.IsBucket first next ∧
        (first ≤ Instant.dayNumber t ∧ Instant.dayNumber t < next) ∧
        (¬ (Date.ofDayNumber first).IsRepresentable ∨ ¬ (Date.ofDayNumber next).IsRepresentable) := by
  refine ⟨fun t span h => ⟨Period.mem_of_bucket? h, ?_⟩, fun t => ?_⟩
  · obtain ⟨first, next, hbucket, -, -, hfirst, hnext, rfl⟩ := Period.bucket?_eq_some_iff.1 h
    refine ⟨⟨first, next, hbucket, rfl⟩, hbucket.measures, fun t' => ⟨Period.mem_of_bucket?, ?_⟩,
      fun span' h' => ?_⟩
    · intro hmem
      obtain ⟨hle, hlt⟩ := Instant.dayNumber_mem_iff.2 hmem
      exact Period.bucket?_eq_some_iff.2 ⟨first, next, hbucket, hle, hlt, hfirst, hnext, rfl⟩
    · obtain ⟨first', next', hbucket', hle, hlt, -, -, rfl⟩ := Period.bucket?_eq_some_iff.1 h'
      rw [Instant.dayNumber_ofDayNumber] at hle hlt
      rw [← hbucket'.eq_of_beginsOn hbucket.ends hle hlt]
  · simp only [Period.bucket?_eq_none_iff_days, Date.not_isRepresentable_iff]
    refine or_congr_right ⟨fun h => ?_, ?_⟩
    · obtain ⟨hbucket, hmem⟩ := p.isBucket_days (Instant.dayNumber t)
      exact ⟨_, _, hbucket, hmem, h⟩
    · rintro ⟨first, next, hbucket, ⟨hle, hlt⟩, h⟩
      rwa [hbucket.days_eq hle hlt]

/-- The last leap day before 2025 lies in a February of 29 days. -/
theorem Period.buckets_tile_leapDay :
    Period.month.bucket? 1709208000000 = some ⟨1706745600000, 1709251200000⟩ ∧
    Period.month.Measures ⟨1706745600000, 1709251200000⟩ ∧
    ∀ t, Period.month.bucket? t = some ⟨1706745600000, 1709251200000⟩ ↔
      1706745600000 ≤ t ∧ t < 1709251200000 := by
  have h : Period.month.bucket? 1709208000000 = some ⟨1706745600000, 1709251200000⟩ := by decide
  obtain ⟨-, -, hmeasures, hmem, -⟩ := (Period.buckets_tile .month).1 _ _ h
  exact ⟨h, hmeasures, hmem⟩

end Booking
