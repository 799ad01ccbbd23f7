import Booking.Availability.Basic
import Booking.Proofs.Time.Bucket
/-!
# What a quota counts

A quota compares the schedules with both ends of the period around `now`. As the buckets of a period lie
on the time line without gap or overlap, this is to count the schedules that have the same bucket as
`now`, and those at the very instant at which it stops (`Availability.hasQuota_counts_buckets`). So of
the two buckets that meet at a midnight both count a schedule that is there.
-/
namespace Booking

section

variable {p : Period} {t t' : Int} {b b' : Span}

/-- The instants with the bucket of `t` are those in its span. -/
theorem Period.bucket?_eq_iff_mem (h : p.bucket? t = some b) :
    p.bucket? t' = some b ↔ b.start ≤ t' ∧ t' < b.stop := by
  refine ⟨Period.mem_of_bucket?, fun hmem => ?_⟩
  obtain ⟨first, next, hbucket, -, -, hfirst, hnext, rfl⟩ := Period.bucket?_eq_some_iff.1 h
  obtain ⟨hle, hlt⟩ := Instant.dayNumber_mem_iff.2 hmem
  exact Period.bucket?_eq_some_iff.2 ⟨first, next, hbucket, hle, hlt, hfirst, hnext, rfl⟩

/-- The bucket of the stop begins there. -/
theorem Period.start_of_bucket?_stop (h : p.bucket? t = some b) (h' : p.bucket? b.stop = some b') :
    b'.start = b.stop := by
  obtain ⟨first, next, hbucket, -, -, -, -, rfl⟩ := Period.bucket?_eq_some_iff.1 h
  obtain ⟨first', next', hbucket', hle, hlt, -, -, rfl⟩ := Period.bucket?_eq_some_iff.1 h'
  rw [Instant.dayNumber_ofDayNumber] at hle hlt
  rw [← hbucket'.eq_of_beginsOn hbucket.ends hle hlt]

/-- **Both ends of a bucket's span**: what it contains has the bucket, or is its stop. -/
theorem Period.containsInclusive_iff (h : p.bucket? t = some b) :
    b.containsInclusive t' = true ↔ p.bucket? t' = some b ∨ t' = b.stop := by
  have hlt : b.start < b.stop := by
    obtain ⟨hle, hlt⟩ := Period.mem_of_bucket? h
    exact Int.lt_of_le_of_lt hle hlt
  rw [Period.bucket?_eq_iff_mem h, Span.containsInclusive, Bool.and_eq_true, decide_eq_true_eq,
    decide_eq_true_eq]
  omega

/-- An instant that has a bucket is the stop of one only as the start of its own. -/
theorem Period.bucket?_eq_or_eq_stop_iff (h : p.bucket? t = some b) (h' : p.bucket? t' = some b') :
    (p.bucket? t' = some b ∨ t' = b.stop) ↔ b' = b ∨ (t' = b'.start ∧ b'.start = b.stop) := by
  rw [h', Option.some.injEq]
  refine or_congr_right ⟨?_, fun hstart => hstart.1.trans hstart.2⟩
  rintro rfl
  have hstart := Period.start_of_bucket?_stop h h'
  exact ⟨hstart.symm, hstart⟩

end

section

variable {a : Availability} {now now' : Int} {b : Span} {schedules schedules' : List Int}

theorem Availability.hasQuota_of_some (h : a.quota.period.bucket? now = some b) :
    a.hasQuota schedules now = decide (schedules.countP b.containsInclusive < a.quota.count) := by
  rw [Availability.hasQuota, Availability.period?, h]

theorem Availability.hasQuota_of_none (h : a.quota.period.bucket? now = none) :
    a.hasQuota schedules now = false := by
  rw [Availability.hasQuota, Availability.period?, h]

theorem Availability.hasQuota_iff : a.hasQuota schedules now = true ↔
    ∃ b, a.quota.period.bucket? now = some b ∧
      schedules.countP (fun s => a.quota.period.bucket? s = some b ∨ s = b.stop) < a.quota.count := by
  cases h : a.quota.period.bucket? now with
  | none =>
    rw [Availability.hasQuota_of_none h]
    simp
  | some b =>
    have hcount : schedules.countP b.containsInclusive =
        schedules.countP (fun s => a.quota.period.bucket? s = some b ∨ s = b.stop) :=
      List.countP_congr fun s _ => by
        rw [Period.containsInclusive_iff h, decide_eq_true_eq]
    rw [Availability.hasQuota_of_some h, hcount, decide_eq_true_eq]
    simp

theorem Availability.hasQuota_perm (h : schedules'.Perm schedules) :
    a.hasQuota schedules' now = a.hasQuota schedules now := by
  cases hnow : a.quota.period.bucket? now with
  | none => rw [Availability.hasQuota_of_none hnow, Availability.hasQuota_of_none hnow]
  | some b =>
    rw [Availability.hasQuota_of_some hnow, Availability.hasQuota_of_some hnow, h.countP_eq]

end

/-- **A quota counts the schedules in the bucket of `now`, and those at its stop.** There is room exactly
if `now` has a bucket and fewer schedules than the quota allows have the same one or are at the instant
where it stops. So a schedule counts in its own bucket and, if it is at the start of that, in the one
before it, and in no other. It does not matter where in its bucket `now` is, nor in which order the
schedules come; and where there is no bucket there is no room. -/
theorem Availability.hasQuota_counts_buckets (a : Availability) (schedules : List Int) (now : Int) :
    (a.hasQuota schedules now = true ↔ ∃ b, a.quota.period.bucket? now = some b ∧
      schedules.countP (fun s => a.quota.period.bucket? s = some b ∨ s = b.stop) <
        a.quota.count) ∧
    (∀ b s b', a.quota.period.bucket? now = some b → a.quota.period.bucket? s = some b' →
      ((a.quota.period.bucket? s = some b ∨ s = b.stop) ↔
        b' = b ∨ (s = b'.start ∧ b'.start = b.stop))) ∧
    (∀ b now', a.quota.period.bucket? now = some b → a.quota.period.bucket? now' = some b →
      a.hasQuota schedules now' = a.hasQuota schedules now) ∧
    (∀ schedules', schedules'.Perm schedules →
      a.hasQuota schedules' now = a.hasQuota schedules now) ∧
    (a.quota.period.bucket? now = none → a.hasQuota schedules now = false) := by
  refine ⟨Availability.hasQuota_iff, fun b s b' => Period.bucket?_eq_or_eq_stop_iff,
    fun b now' hb hb' => ?_, fun schedules' => Availability.hasQuota_perm,
    Availability.hasQuota_of_none⟩
  rw [Availability.hasQuota_of_some hb, Availability.hasQuota_of_some hb']

/-- The first two days of May under a quota of two a day: a schedule at the midnight between them counts
in both, and a millisecond later it counts in the second only. -/
theorem Availability.hasQuota_counts_buckets_midnight :
    let a := Availability.ofQuota ⟨2, .day⟩
    let may1 : Span := ⟨1682899200000, 1682985600000⟩
    let may2 : Span := ⟨1682985600000, 1683072000000⟩
    a.hasQuota [1682935200000, 1682985600001] 1682935200000 = true ∧
    (a.quota.period.bucket? 1682985600000 = some may2 ∧
      (a.quota.period.bucket? 1682985600000 = some may1 ∨ 1682985600000 = may1.stop)) ∧
    a.hasQuota [1682985600000, 1682935200000] 1682935200000 = false ∧
    a.hasQuota [1682935200000, 1682985600000] 1682985599999 = false ∧
    a.hasQuota [] Instant.greatest = false := by
  intro a may1 may2
  have hnow : a.quota.period.bucket? 1682935200000 = some may1 := by decide
  have hlate : a.quota.period.bucket? 1682985599999 = some may1 := by decide
  have hmidnight : a.quota.period.bucket? 1682985600000 = some may2 := by decide
  obtain ⟨hroom, -⟩ :=
    a.hasQuota_counts_buckets [1682935200000, 1682985600001] 1682935200000
  obtain ⟨hfull, hcounts, -, hperm, -⟩ :=
    a.hasQuota_counts_buckets [1682985600000, 1682935200000] 1682935200000
  obtain ⟨-, -, -, -, hnone⟩ := a.hasQuota_counts_buckets [] Instant.greatest
  have hno : a.hasQuota [1682985600000, 1682935200000] 1682935200000 = false := by
    rw [Bool.eq_false_iff, ne_eq, hfull, hnow]
    rintro ⟨b, hb, hlt⟩
    cases hb
    revert hlt
    decide
  refine ⟨hroom.2 ⟨may1, hnow, by decide⟩,
    ⟨hmidnight, (hcounts may1 _ may2 hnow hmidnight).2 (.inr ⟨rfl, rfl⟩)⟩, hno, ?_,
    hnone (by decide)⟩
  obtain ⟨-, -, hsame', -, -⟩ :=
    a.hasQuota_counts_buckets [1682935200000, 1682985600000] 1682935200000
  rw [hsame' may1 _ hnow hlate, hperm [1682935200000, 1682985600000] (.swap _ _ _), hno]

end Booking
