import Booking.Proofs.Availability.Quota
/-!
# Quotas of longer periods

A bucket of the longer period begins only where one of the shorter begins too, so a bucket of the
shorter period never crosses an end of a bucket of the longer: it lies inside, and it exists where the
longer one does (`Period.Splits.exists_bucket?`). A quota counts what lies between the two ends of a
bucket, so where a count leaves room for a longer period it leaves room for a shorter one
(`Availability.hasQuota_of_longer_period`). Weeks begin inside months and years, and lie in neither.
-/
namespace Booking

/-- Where a bucket of the longer period begins, one of the shorter begins. -/
def Period.Splits (short long : Period) : Prop := ∀ n, long.BeginsOn n → short.BeginsOn n

theorem Period.day_splits (p : Period) : Period.day.Splits p := fun _ _ => trivial

theorem Period.month_splits_year : Period.month.Splits .year := fun _ h => h.2

theorem Instant.ofDayNumber_le {n n' : Int} (h : n ≤ n') :
    Instant.ofDayNumber n ≤ Instant.ofDayNumber n' := by
  simp only [Instant.ofDayNumber, Instant.msPerDay]
  omega

section

variable {short long : Period}

/-- **The shorter bucket around a day lies inside the longer one**: between the ends of the shorter
bucket there is no day on which the longer one could begin or end. -/
theorem Period.Splits.isBucket_subset (h : short.Splits long) {first next first' next' n : Int}
    (hshort : short.IsBucket first next) (hlong : long.IsBucket first' next')
    (hfirst : first ≤ n) (hnext : n < next) (hfirst' : first' ≤ n) (hnext' : n < next') :
    first' ≤ first ∧ next ≤ next' := by
  constructor
  · by_contra hlt
    exact hshort.within first' (Int.not_le.1 hlt) (Int.lt_of_le_of_lt hfirst' hnext)
      (h first' hlong.begins)
  · by_contra hlt
    exact hshort.within next' (Int.lt_of_le_of_lt hfirst hnext') (Int.not_le.1 hlt)
      (h next' hlong.ends)

/-- **Where the longer bucket exists the shorter one does**, between the same two ends. Its own ends
have dates since they lie between days that have. -/
theorem Period.Splits.exists_bucket? (h : short.Splits long) {t : Int} {b : Span}
    (hb : long.bucket? t = some b) :
    ∃ b', short.bucket? t = some b' ∧ b.start ≤ b'.start ∧ b'.stop ≤ b.stop := by
  obtain ⟨first', next', hlong, hfirst', hnext', hday, hday', rfl⟩ :=
    Period.bucket?_eq_some_iff.1 hb
  obtain ⟨hshort, hfirst, hnext⟩ := short.isBucket_days (Instant.dayNumber t)
  obtain ⟨hstart, hstop⟩ := h.isBucket_subset hshort hlong hfirst hnext hfirst' hnext'
  refine ⟨_, Period.bucket?_eq_some_iff.2 ⟨_, _, hshort, hfirst, hnext, ?_, ?_, rfl⟩, ?_, ?_⟩
  · exact Date.hasDay_of_between hday hday' hstart (Int.lt_of_le_of_lt hfirst hnext')
  · rcases Int.lt_or_eq_of_le hstop with hlt | heq
    · exact Date.hasDay_of_between hday hday' (Int.le_trans hfirst' (Int.le_of_lt hnext)) hlt
    · rwa [heq]
  · exact Instant.ofDayNumber_le hstart
  · exact Instant.ofDayNumber_le hstop

theorem Span.containsInclusive_mono {b b' : Span} (hstart : b.start ≤ b'.start)
    (hstop : b'.stop ≤ b.stop) {t : Int} (h : b'.containsInclusive t = true) :
    b.containsInclusive t = true := by
  simp only [Span.containsInclusive, Bool.and_eq_true, decide_eq_true_eq] at *
  omega

/-- The shorter period has room for what the longer one has room for. -/
theorem Period.Splits.hasQuota (h : short.Splits long) {a : Availability} {count : Nat}
    {schedules : List Int} {now : Int}
    (hroom : (a.setQuota ⟨count, long⟩).hasQuota schedules now = true) :
    (a.setQuota ⟨count, short⟩).hasQuota schedules now = true := by
  cases hb : long.bucket? now with
  | none =>
    rw [Availability.hasQuota_of_none (a := a.setQuota ⟨count, long⟩) hb] at hroom
    cases hroom
  | some b =>
    obtain ⟨b', hb', hstart, hstop⟩ := h.exists_bucket? hb
    rw [Availability.hasQuota_of_some (a := a.setQuota ⟨count, long⟩) hb, decide_eq_true_eq] at hroom
    rw [Availability.hasQuota_of_some (a := a.setQuota ⟨count, short⟩) hb', decide_eq_true_eq]
    have hcount : schedules.countP b'.containsInclusive ≤ schedules.countP b.containsInclusive :=
      List.countP_mono_left fun _ _ => Span.containsInclusive_mono hstart hstop
    exact Nat.lt_of_le_of_lt hcount hroom

end

/-- **Room in a longer period is room in a shorter one.** If a count leaves room in the year of `now` it
leaves room in the month, and from there in the day; and if it leaves room in the week it leaves room in
the day. For an instant that has the longer bucket has the shorter one too, whose both ends lie inside
it. -/
theorem Availability.hasQuota_of_longer_period (a : Availability) (count : Nat)
    (schedules : List Int) (now : Int) :
    let hasRoom (p : Period) := (a.setQuota ⟨count, p⟩).hasQuota schedules now = true
    (hasRoom .year → hasRoom .month) ∧ (hasRoom .month → hasRoom .day) ∧
      (hasRoom .week → hasRoom .day) ∧
      ∀ short long, (short, long) ∈ [(Period.month, Period.year), (.day, .month), (.day, .week)] →
        ∀ t b, long.bucket? t = some b →
          ∃ b', short.bucket? t = some b' ∧ b.start ≤ b'.start ∧ b'.stop ≤ b.stop := by
  refine ⟨Period.month_splits_year.hasQuota, (Period.day_splits .month).hasQuota,
    (Period.day_splits .week).hasQuota, fun short long hpair t b hb => ?_⟩
  simp only [List.mem_cons, Prod.mk.injEq, List.not_mem_nil, or_false] at hpair
  rcases hpair with ⟨rfl, rfl⟩ | ⟨rfl, rfl⟩ | ⟨rfl, rfl⟩
  · exact Period.month_splits_year.exists_bucket? hb
  · exact (Period.day_splits .month).exists_bucket? hb
  · exact (Period.day_splits .week).exists_bucket? hb

/-- The last noon of 2024. Day, month and year stop at the same midnight, and a schedule there counts in
all three of them and in the week. -/
theorem Availability.hasQuota_of_longer_period_newYear :
    let hasRoom (p : Period) := ((Availability.ofQuota ⟨1, .day⟩).setQuota ⟨3, p⟩).hasQuota
      [1735689600000, 1709208000000] 1735646400000 = true
    (hasRoom .year ∧ hasRoom .month ∧ hasRoom .day) ∧ (hasRoom .week ∧ hasRoom .day) ∧
      Period.year.bucket? 1735646400000 = some ⟨1704067200000, 1735689600000⟩ ∧
      ∃ b, Period.month.bucket? 1735646400000 = some b ∧ 1704067200000 ≤ b.start ∧
        b.stop ≤ 1735689600000 := by
  intro hasRoom
  obtain ⟨hmonth, hday, hweekday, hinside⟩ := (Availability.ofQuota ⟨1, .day⟩).hasQuota_of_longer_period 3
    [1735689600000, 1709208000000] 1735646400000
  have hyear : hasRoom .year := by decide
  have hweek : hasRoom .week := by decide
  have hbucket : Period.year.bucket? 1735646400000 = some ⟨1704067200000, 1735689600000⟩ := by
    decide
  exact ⟨⟨hyear, hmonth hyear, hday (hmonth hyear)⟩, ⟨hweek, hweekday hweek⟩, hbucket,
    hinside .month .year (by decide) _ _ hbucket⟩

end Booking
