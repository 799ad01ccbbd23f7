import Booking.Ledger.Reservation
import Booking.Proofs.Time.Days
/-!
# Windows without midnight

A pattern accepts a range by its two ends, or by the midnight after it. A midnight shows hour 0 and
minute 0, so a pattern that has no field for one of the two accepts none, and accepts ranges by their
ends only (`Pattern.acceptsRange_of_excludesMidnight`). What a rule with such a window allows it counts
from then on (`Rule.counts_what_it_allows`); with other windows a rule may allow what it never counts.
-/
namespace Booking

/-! ## Midnights -/

/-- **The midnight after an instant shows hour 0 and minute 0.** -/
theorem Sample.exists_of_nextMidnight? {t m : Int} (h : Instant.nextMidnight? t = some m) :
    ∃ s, Sample.ofInstant? m = some s ∧ s.minute = 0 ∧ s.hour = 0 := by
  simp only [Instant.nextMidnight?, Option.ite_none_right_eq_some, Option.some.injEq,
    Bool.and_eq_true] at h
  obtain ⟨⟨-, hnext⟩, rfl⟩ := h
  have hday : Instant.isRepresentable (Instant.ofDayNumber (Instant.dayNumber t + 1)) = true := by
    rwa [Instant.isRepresentable, Instant.dayNumber_ofDayNumber]
  obtain ⟨s, hs, hminute, hhour, -⟩ := Sample.exists_ofInstant? hday
  simp only [Instant.ofDayNumber, Instant.msPerDay] at hminute hhour
  exact ⟨s, hs, by omega, by omega⟩

/-! ## Patterns -/

/-- No field for the minutes accepts 0, or no field for the hours does. -/
def Pattern.ExcludesMidnight (p : Pattern) : Prop :=
  (∀ f ∈ p.minutes, f.accepts 0 = false) ∨ ∀ f ∈ p.hours, f.accepts 0 = false

section

variable {p : Pattern}

/-- A pattern that accepts an instant has a field for each of its values. -/
theorem Pattern.exists_field_of_accepts {t : Int} {s : Sample} (hs : Sample.ofInstant? t = some s)
    (h : p.accepts t = true) (d : Dimension) : ∃ f ∈ p.fields d, f.accepts (s.value d) = true := by
  obtain ⟨s', hs', hfields⟩ := Pattern.accepts_iff.1 h
  obtain rfl : s = s' := Option.some.inj (hs.symm.trans hs')
  exact hfields d

theorem Pattern.ExcludesMidnight.accepts_nextMidnight? (h : p.ExcludesMidnight) {t m : Int}
    (hm : Instant.nextMidnight? t = some m) : p.accepts m = false := by
  obtain ⟨s, hs, hminute, hhour⟩ := Sample.exists_of_nextMidnight? hm
  rw [Bool.eq_false_iff]
  intro haccepts
  rcases h with h | h
  · obtain ⟨f, hf, hzero⟩ := Pattern.exists_field_of_accepts hs haccepts .minute
    rw [Sample.value, hminute, h f hf] at hzero
    cases hzero
  · obtain ⟨f, hf, hzero⟩ := Pattern.exists_field_of_accepts hs haccepts .hour
    rw [Sample.value, hhour, h f hf] at hzero
    cases hzero

/-- **Without midnights a range is accepted by its two ends.** -/
theorem Pattern.acceptsRange_of_excludesMidnight (h : p.ExcludesMidnight) (start stop : Int) :
    p.acceptsRange start stop = (p.accepts start && p.accepts stop) := by
  have hmidnight : (Instant.nextMidnight? stop).any p.accepts = false := by
    cases hm : Instant.nextMidnight? stop with
    | none => rfl
    | some m => exact h.accepts_nextMidnight? hm
  rw [Pattern.acceptsRange, hmidnight, Bool.and_false, Bool.or_false]

end

/-! ## Rules -/

/-- What a rule counts takes up one of its limit, wherever it stands among the existing. -/
theorem Rule.countP_append_cons {rule : Rule} {r : Reservation} (h : rule.counts r = true)
    (pre post : List Reservation) :
    (pre ++ r :: post).countP (fun q => rule.counts q && q.user == r.user) =
      (pre ++ post).countP (fun q => rule.counts q && q.user == r.user) + 1 := by
  rw [List.countP_append, List.countP_cons, List.countP_append, if_pos (by simp [h])]
  omega

/-- **What a rule allows it counts, if its window has no midnight.** A pattern whose minutes or whose
hours leave out 0 accepts a range exactly if it accepts its two ends, whatever instants these are. So a
reservation that a rule with such a window allows is one that the rule counts: in every later check for
the same user that finds it among the existing ones it takes up one of the limit. -/
theorem Rule.counts_what_it_allows (p : Pattern)
    (h : (∀ f ∈ p.minutes, f.accepts 0 = false) ∨ ∀ f ∈ p.hours, f.accepts 0 = false) :
    (∀ start stop, p.acceptsRange start stop = (p.accepts start && p.accepts stop)) ∧
    ∀ rule : Rule, rule.window = p → ∀ (existing : List Reservation) (r : Reservation),
      rule.allows existing r.user r.start r.stop = true →
        rule.counts r = true ∧
        ∀ (pre post : List Reservation) (start stop : Int),
          rule.allows (pre ++ r :: post) r.user start stop = true ↔
            (p.accepts start = true ∧ p.accepts stop = true) ∧
              (pre ++ post).countP (fun q => rule.counts q && q.user == r.user) + 1 <
                rule.limit := by
  have hrange := Pattern.acceptsRange_of_excludesMidnight h
  refine ⟨hrange, ?_⟩
  rintro rule rfl existing r hallows
  have hcounts : rule.counts r = true := by
    rw [Rule.allows, Bool.and_eq_true, hrange] at hallows
    exact hallows.1
  refine ⟨hcounts, fun pre post start stop => ?_⟩
  rw [Rule.allows, hrange, Rule.countP_append_cons hcounts, Bool.and_eq_true, Bool.and_eq_true,
    decide_eq_true_eq]

/-- At most one night, from half past an hour to half past an hour. -/
def Rule.halfPast : Rule where
  id := .ofNat 3
  group := .ofNat 1
  limit := 1
  window := ⟨[.range 30 30 1], [.range 19 7 1], [.any], [.any], [.any]⟩

/-- The night from 19:30 to 7:30 goes back in the hours and is accepted by its ends; from 20:30 to 8:30
there is no midnight for which it would be. The night that is allowed leaves no room for itself. -/
theorem Rule.counts_what_it_allows_halfPast :
    let r : Reservation := ⟨.ofNat 5, .ofNat 4, .ofNat 2, 1672947000000, 1672990200000⟩
    (∀ f ∈ Rule.halfPast.window.minutes, f.accepts 0 = false) ∧
      Rule.halfPast.window.acceptsRange 1672950600000 1672993800000 = false ∧
      Rule.halfPast.allows [] r.user r.start r.stop = true ∧
      Rule.halfPast.counts r = true ∧
      Rule.halfPast.allows [r] r.user r.start r.stop = false := by
  intro r
  have hminutes : ∀ f ∈ Rule.halfPast.window.minutes, f.accepts 0 = false := by decide
  obtain ⟨hrange, hallowed⟩ := Rule.counts_what_it_allows Rule.halfPast.window (.inl hminutes)
  have hallows : Rule.halfPast.allows [] r.user r.start r.stop = true := by decide
  obtain ⟨hcounts, hlater⟩ := hallowed Rule.halfPast rfl [] r hallows
  refine ⟨hminutes, ?_, hallows, hcounts, ?_⟩
  · rw [hrange]
    decide
  · rw [Bool.eq_false_iff, ne_eq, show [r] = [] ++ r :: [] from rfl, hlater]
    exact fun hroom => absurd hroom.2 (by decide)

end Booking
