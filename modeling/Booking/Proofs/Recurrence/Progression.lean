import Booking.Recurrence.Reader
import Mathlib.Algebra.Order.Group.Int
import Mathlib.Order.Interval.Set.Basic
/-!
# What a range accepts

A range is tested by the remainder of a distance, which is negative for values below its first. A
distance leaves no remainder if whole steps lead up or down (`Field.distance_emod_eq_zero_iff`), so a
plain range accepts the steps up from its first value as far as its last, and a wraparound range all
steps up and those steps down that are not above its last (`Field.accepts_progressions`). For numbers
of 32 bits the test stays within the signed numbers of 64 (`Field.acceptsInWords?_eq`).
-/
namespace Booking

/-- The values that a field accepts. -/
def Field.values (f : Field) : Set Nat := {v | f.accepts v = true}

/-- The values at whole steps up from `first`. -/
def Field.stepsUp (first step : Nat) : Set Nat := {v | ∃ k : Nat, v = first + k * step}

/-- The values at whole steps down from `first`. -/
def Field.stepsDown (first step : Nat) : Set Nat := {v | ∃ k : Nat, first = v + k * step}

section

variable {first last step value : Nat}

theorem Field.mem_values {f : Field} : value ∈ f.values ↔ f.accepts value = true := Iff.rfl

theorem Field.mem_stepsUp : value ∈ Field.stepsUp first step ↔ ∃ k : Nat, value = first + k * step :=
  Iff.rfl

theorem Field.mem_stepsDown :
    value ∈ Field.stepsDown first step ↔ ∃ k : Nat, first = value + k * step := Iff.rfl

theorem Field.le_of_mem_stepsUp (h : value ∈ Field.stepsUp first step) : first ≤ value := by
  obtain ⟨k, rfl⟩ := h
  exact Nat.le_add_right _ _

theorem Field.le_of_mem_stepsDown (h : value ∈ Field.stepsDown first step) : value ≤ first :=
  Field.le_of_mem_stepsUp h

theorem Field.mem_stepsUp_of_le (hle : first ≤ value)
    (h : value ∈ Field.stepsUp first step ∨ value ∈ Field.stepsDown first step) :
    value ∈ Field.stepsUp first step := by
  refine h.elim id fun hdown => ?_
  obtain rfl := Nat.le_antisymm hle (Field.le_of_mem_stepsDown hdown)
  exact ⟨0, by omega⟩

theorem Field.mem_stepsUp_iff_dvd (h : first ≤ value) :
    value ∈ Field.stepsUp first step ↔ (step : Int) ∣ value - first := by
  obtain ⟨n, rfl⟩ := Nat.exists_eq_add_of_le h
  rw [Int.natCast_add, add_sub_cancel_left, Int.natCast_dvd_natCast, Field.mem_stepsUp]
  exact exists_congr fun k => by rw [Nat.add_left_cancel_iff, Nat.mul_comm]

/-- **A distance leaves no remainder if whole steps lead up or down.** -/
theorem Field.distance_emod_eq_zero_iff :
    ((value : Int) - first) % step = 0 ↔
      value ∈ Field.stepsUp first step ∨ value ∈ Field.stepsDown first step := by
  rw [← Int.dvd_iff_emod_eq_zero]
  rcases Nat.le_total first value with hle | hle
  · rw [← Field.mem_stepsUp_iff_dvd hle]
    exact ⟨.inl, Field.mem_stepsUp_of_le hle⟩
  · rw [← Int.dvd_neg, Int.neg_sub, ← Field.mem_stepsUp_iff_dvd hle]
    exact ⟨.inr, fun h => Field.mem_stepsUp_of_le hle h.symm⟩

theorem Field.accepts_range_iff :
    (Field.range first last step).accepts value = true ↔
      1 ≤ step ∧ (value ∈ Field.stepsUp first step ∨ value ∈ Field.stepsDown first step) ∧
        if first ≤ last then first ≤ value ∧ value ≤ last else first ≤ value ∨ value ≤ last := by
  rw [← Field.distance_emod_eq_zero_iff, Field.accepts, Nat.one_le_iff_ne_zero]
  split <;> simp [and_assoc]

/-- **A plain range accepts the steps up from its first value, as far as its last.** -/
theorem Field.values_of_le (hstep : 1 ≤ step) (hle : first ≤ last) :
    (Field.range first last step).values = Field.stepsUp first step ∩ Set.Iic last := by
  ext v
  rw [Field.mem_values, Field.accepts_range_iff, if_pos hle, Set.mem_inter_iff, Set.mem_Iic]
  constructor
  · rintro ⟨-, hsteps, hfirst, hlast⟩
    exact ⟨Field.mem_stepsUp_of_le hfirst hsteps, hlast⟩
  · rintro ⟨hup, hlast⟩
    exact ⟨hstep, .inl hup, Field.le_of_mem_stepsUp hup, hlast⟩

/-- **A wraparound range accepts all steps up from its first value, and the steps down that are not
above its last.** -/
theorem Field.values_of_lt (hstep : 1 ≤ step) (hlt : last < first) :
    (Field.range first last step).values =
      Field.stepsUp first step ∪ Field.stepsDown first step ∩ Set.Iic last := by
  ext v
  rw [Field.mem_values, Field.accepts_range_iff, if_neg (Nat.not_le.2 hlt), Set.mem_union,
    Set.mem_inter_iff, Set.mem_Iic]
  constructor
  · rintro ⟨-, hsteps, hfirst | hlast⟩
    · exact .inl (Field.mem_stepsUp_of_le hfirst hsteps)
    · exact hsteps.imp_right fun hdown => ⟨hdown, hlast⟩
  · rintro (hup | ⟨hdown, hlast⟩)
    · exact ⟨hstep, .inl hup, .inl (Field.le_of_mem_stepsUp hup)⟩
    · exact ⟨hstep, .inr hdown, .inr hlast⟩

end

/-! ## In 64 bits -/

/-- A number of signed arithmetic in 64 bits; `none` where it overflows. -/
def Field.word? (x : Int) : Option Int := if -2 ^ 63 ≤ x ∧ x < 2 ^ 63 then some x else none

/-- The remainder of a division in 64 bits; `none` for a division by zero, and where the quotient
overflows. -/
def Field.remainder? (x divisor : Int) : Option Int :=
  if divisor = 0 then none else (Field.word? (x / divisor)).map (fun _ => x % divisor)

/-- The test of a field in 64 bits, with every operation that may overflow. -/
def Field.acceptsInWords? : Field → Nat → Option Bool
  | .any, _ => some true
  | .range first last step, value =>
    if step = 0 then some false
    else do
      let distance ← Field.word? ((← Field.word? value) - (← Field.word? first))
      let rest ← Field.remainder? distance (← Field.word? step)
      return rest == 0 &&
        (if first ≤ last then first ≤ value && value ≤ last else first ≤ value || value ≤ last)

theorem Field.word?_of_natAbs_le {x : Int} (h : x.natAbs ≤ Field.numberBound) :
    Field.word? x = some x := by
  have hbound : Field.numberBound = 4294967296 := rfl
  exact if_pos (by omega)

theorem Field.remainder?_eq {x divisor : Int} (h : x.natAbs ≤ Field.numberBound)
    (hpos : 0 < divisor) : Field.remainder? x divisor = some (x % divisor) := by
  have hquotient := Field.word?_of_natAbs_le (Nat.le_trans (Int.natAbs_ediv_le_natAbs x divisor) h)
  rw [Field.remainder?, if_neg (Int.ne_of_gt hpos), hquotient, Option.map_some]

/-- **Numbers of 32 bits are tested without overflow and without division by zero.** -/
theorem Field.acceptsInWords?_eq {first last step value : Nat} (hfirst : first < Field.numberBound)
    (hstep : step < Field.numberBound) (hvalue : value < Field.numberBound) :
    (Field.range first last step).acceptsInWords? value =
      some ((Field.range first last step).accepts value) := by
  by_cases hzero : step = 0
  · simp [Field.acceptsInWords?, Field.accepts, hzero]
  have hword {n : Nat} (hn : n < Field.numberBound) : Field.word? n = some n :=
    Field.word?_of_natAbs_le (Nat.le_of_lt hn)
  have hle : ((value : Int) - first).natAbs ≤ Field.numberBound := by omega
  have hdistance : Field.word? ((value : Int) - first) = some ((value : Int) - first) :=
    Field.word?_of_natAbs_le hle
  have hrest : Field.remainder? ((value : Int) - first) step =
      some (((value : Int) - first) % step) :=
    Field.remainder?_eq hle (by omega)
  simp only [Field.acceptsInWords?, if_neg hzero, hword hvalue, hword hfirst, hword hstep,
    Option.bind_eq_bind, Option.bind_some, hdistance, hrest, Option.pure_def, Field.accepts,
    bne_iff_ne.2 hzero, Bool.true_and]

/-- **A range accepts progressions.** With a step of at least one, a plain range accepts what is reached by
whole steps up from its first value, cut at its last; a wraparound range accepts all that is reached so,
and also what is reached by whole steps down and is not above its last. Nothing in its gap is accepted,
and with a step of zero nothing at all. On numbers of 32 bits this is what the test gives in 64 bits,
where nothing overflows and nothing is divided by zero. -/
theorem Field.accepts_progressions (first last step : Nat) :
    let f := Field.range first last step
    (∀ value, f.accepts value = true ↔
      1 ≤ step ∧
        (first ≤ last ∧ value ≤ last ∧ (∃ k : Nat, value = first + k * step) ∨
          last < first ∧ ((∃ k : Nat, value = first + k * step) ∨
            value ≤ last ∧ ∃ k : Nat, first = value + k * step))) ∧
    (1 ≤ step → first ≤ last → f.values = Field.stepsUp first step ∩ Set.Iic last) ∧
    (1 ≤ step → last < first →
      f.values = Field.stepsUp first step ∪ Field.stepsDown first step ∩ Set.Iic last) ∧
    (∀ value, last < value → value < first → f.accepts value = false) ∧
    ∀ value, first < Field.numberBound → step < Field.numberBound → value < Field.numberBound →
      f.acceptsInWords? value = some (f.accepts value) := by
  intro f
  refine ⟨fun value => ?_, Field.values_of_le, Field.values_of_lt, fun value hlast hfirst => ?_,
    fun value => Field.acceptsInWords?_eq⟩
  · by_cases hstep : 1 ≤ step
    · rw [← Field.mem_values]
      rcases Nat.lt_or_ge last first with hlt | hle
      · rw [Field.values_of_lt hstep hlt]
        simp [hstep, hlt, Nat.not_le.2 hlt, Field.mem_stepsUp, Field.mem_stepsDown, and_comm]
      · rw [Field.values_of_le hstep hle]
        simp [hstep, hle, Nat.not_lt.2 hle, Field.mem_stepsUp, and_comm]
    · rw [Field.accepts_range_iff]
      simp [hstep]
  · rw [Bool.eq_false_iff, ne_eq, Field.accepts_range_iff,
      if_neg (Nat.not_le.2 (Nat.lt_trans hlast hfirst))]
    omega

/-- Every sixth value from 20 on, and back from 20 as far as 9 is not passed: 14 lies in the gap. At the
ends of 32 bits the distance is as negative as it can be. -/
theorem Field.accepts_progressions_sixths :
    let f := Field.range 20 9 6
    (f.accepts 26 = true ∧ f.accepts 8 = true ∧ f.accepts 14 = false) ∧
    f.values = Field.stepsUp 20 6 ∪ Field.stepsDown 20 6 ∩ Set.Iic 9 ∧
    (Field.range 0 59 15).values = Field.stepsUp 0 15 ∩ Set.Iic 59 ∧
    (Field.range 4294967295 0 4294967295).acceptsInWords? 0 = some true := by
  intro f
  obtain ⟨haccepts, -, hvalues, hgap, -⟩ := Field.accepts_progressions 20 9 6
  obtain ⟨hlargest, -, -, -, hwords⟩ := Field.accepts_progressions 4294967295 0 4294967295
  refine ⟨⟨(haccepts 26).2 ?_, (haccepts 8).2 ?_, hgap 14 (by decide) (by decide)⟩,
    hvalues (by decide) (by decide),
    (Field.accepts_progressions 0 59 15).2.1 (by decide) (by decide), ?_⟩
  · exact ⟨by decide, .inr ⟨by decide, .inl ⟨1, rfl⟩⟩⟩
  · exact ⟨by decide, .inr ⟨by decide, .inr ⟨by decide, 2, rfl⟩⟩⟩
  · rw [hwords 0 (by decide) (by decide) (by decide), Option.some.injEq]
    exact (hlargest 0).2 ⟨by decide, .inr ⟨by decide, .inr ⟨by decide, 1, rfl⟩⟩⟩

end Booking
