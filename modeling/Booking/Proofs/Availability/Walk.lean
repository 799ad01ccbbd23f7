import Booking.Availability.Basic
import Mathlib.Order.Nat
/-!
# The instants of a walk

A walk looks at its start and then at every full step from there that is before its stop
(`Walk.instants_eq_grid`). The next instant saturates only where it is not before any stop, so the
end of the 64 bits cuts nothing off and repeats nothing. `Walk.take` finds the first instants that pass
a test (`Walk.take_eq`), and `Walk.cutStop?` cuts a window after so many of its instants, exactly if it
has more (`Walk.cutStop?_spec`).
-/
namespace Booking

/-! ## Grids -/

/-- So many instants from the start on, a fixed step apart. -/
def Walk.grid (start step : Int) (n : Nat) : List Int :=
  (List.range n).map (fun k : Nat => start + k * step)

section

variable {start step t : Int} {m n : Nat}

theorem Walk.length_grid : (Walk.grid start step n).length = n := by
  rw [Walk.grid, List.length_map, List.length_range]

theorem Walk.mem_grid : t ∈ Walk.grid start step n ↔ ∃ k : Nat, k < n ∧ start + k * step = t := by
  simp only [Walk.grid, List.mem_map, List.mem_range]

theorem Walk.grid_succ :
    Walk.grid start step (n + 1) = start :: Walk.grid (start + step) step n := by
  have hnext (k : Nat) : start + (k + 1 : Nat) * step = start + step + k * step := by
    rw [Int.natCast_add, Int.add_mul, Int.natCast_one, Int.one_mul]
    omega
  simp only [Walk.grid, List.range_succ_eq_map, List.map_cons, List.map_map, Function.comp_def,
    Nat.succ_eq_add_one, hnext, Int.natCast_zero, Int.zero_mul, Int.add_zero]

theorem Walk.take_grid : (Walk.grid start step n).take m = Walk.grid start step (min m n) := by
  rw [Walk.grid, ← List.map_take, List.take_range, Walk.grid]

theorem Walk.pairwise_grid (hstep : 0 < step) : (Walk.grid start step n).Pairwise (· < ·) :=
  List.Pairwise.map _ (fun _ _ h =>
    Int.add_lt_add_left (Int.mul_lt_mul_of_pos_right (Int.ofNat_lt.2 h) hstep) start)
    List.pairwise_lt_range

end

/-! ## Walks -/

/-- The number of instants that a walk looks at: the steps up to its stop, a part of one rounded up. -/
def Walk.count (w : Walk) : Nat := ((w.stop - w.next + w.step - 1) / w.step).toNat

section

variable {w : Walk}

theorem Walk.lt_count_iff (hstep : 0 < w.step) {k : Nat} :
    k < w.count ↔ w.next + k * w.step < w.stop := by
  rw [Walk.count, Int.lt_toNat, ← Int.add_one_le_iff, Int.le_ediv_iff_mul_le hstep, Int.add_mul]
  omega

theorem Walk.goesOn_iff (hstep : 0 < w.step) (hstop : w.stop ≤ Instant.greatest) :
    w.goesOn = true ↔ w.next < w.stop := by
  simp only [Walk.goesOn, Bool.and_eq_true, decide_eq_true_eq]
  omega

/-- A step leaves one instant less: where it saturates, the instant was the last one. -/
theorem Walk.count_tail (hstep : 0 < w.step) (hleast : Instant.least ≤ w.next)
    (hstop : w.stop ≤ Instant.greatest) (hgoesOn : w.next < w.stop) :
    w.count = w.tail.count + 1 := by
  refine eq_of_forall_lt_iff fun k => ?_
  cases k with
  | zero => simpa [Walk.lt_count_iff hstep] using hgoesOn
  | succ k =>
    rw [Nat.add_lt_add_iff_right, Walk.lt_count_iff hstep, Walk.lt_count_iff (w := w.tail) hstep,
      Int.natCast_add, Int.add_mul, Int.natCast_one, Int.one_mul]
    have hk : 0 ≤ (k : Int) * w.step := Int.mul_nonneg (Int.natCast_nonneg k) (Int.le_of_lt hstep)
    simp only [Walk.tail, Instant.saturate]
    omega

/-- **A walk looks at its start and all full steps from there that are before its stop.** -/
theorem Walk.instants_eq_grid (hstep : 0 < w.step) (hleast : Instant.least ≤ w.next)
    (hstop : w.stop ≤ Instant.greatest) : w.instants = Walk.grid w.next w.step w.count := by
  induction w using Walk.instants.induct with
  | case1 w hgoesOn ih =>
    have hlt := (Walk.goesOn_iff hstep hstop).1 hgoesOn
    rw [Walk.instants, dif_pos hgoesOn, Walk.count_tail hstep hleast hstop hlt, Walk.grid_succ,
      ih hstep (Int.le_max_left _ _) hstop]
    congr 1
    by_cases hnext : w.next + w.step ≤ Instant.greatest
    · have : w.tail.next = w.next + w.step := Instant.saturate_of_mem (by omega) hnext
      rw [this]
      rfl
    · -- saturated: nothing is left on either side
      have hlast : w.tail.count = 0 := by
        refine Nat.eq_zero_of_not_pos fun hpos => ?_
        have := (Walk.lt_count_iff (w := w.tail) hstep).1 hpos
        simp only [Walk.tail, Instant.saturate, Int.natCast_zero, Int.zero_mul] at this
        omega
      rw [hlast]
      rfl
  | case2 w hend =>
    have hcount : w.count = 0 := by
      refine Nat.eq_zero_of_not_pos fun hpos => hend ?_
      have := (Walk.lt_count_iff hstep).1 hpos
      rw [Walk.goesOn_iff hstep hstop]
      simpa using this
    rw [Walk.instants, dif_neg hend, hcount]
    rfl

end

/-! ## Finding instants -/

section

variable (test : Int → Bool)

theorem Walk.find?_spec (w : Walk) :
    w.find? test = none ∧ w.instants.filter test = [] ∨
    ∃ t rest, w.find? test = some (t, rest) ∧
      w.instants.filter test = t :: rest.instants.filter test := by
  induction w using Walk.instants.induct with
  | case1 w hgoesOn ih =>
    rw [Walk.find?, dif_pos hgoesOn, Walk.instants, dif_pos hgoesOn]
    cases htest : test w.next with
    | true => exact .inr ⟨_, _, rfl, List.filter_cons_of_pos htest⟩
    | false => rwa [List.filter_cons_of_neg (by rw [htest]; decide)]
  | case2 w hend =>
    rw [Walk.find?, dif_neg hend, Walk.instants, dif_neg hend]
    exact .inl ⟨rfl, rfl⟩

theorem Walk.go_eq : ∀ (n : Nat) (w : Walk) (found : List Int),
    Walk.take.go test n w found = found.reverse ++ (w.instants.filter test).take n
  | 0, w, found => by rw [Walk.take.go, List.take_zero, List.append_nil]
  | n + 1, w, found => by
    rcases w.find?_spec test with ⟨hfind, hnone⟩ | ⟨t, rest, hfind, hsome⟩
    · rw [Walk.take.go, hfind, hnone, List.take_nil, List.append_nil]
    · rw [Walk.take.go, hfind, hsome]
      simp only [Walk.go_eq n rest (t :: found), List.take_succ_cons, List.reverse_cons,
        List.append_assoc, List.singleton_append]

/-- **What a walk takes are its first instants that pass the test.** -/
theorem Walk.take_eq (n : Nat) (w : Walk) : w.take test n = (w.instants.filter test).take n :=
  Walk.go_eq test n w []

end

/-! ## Windows -/

section

variable {start stop : Int} {minutes : Nat}

theorem Walk.instants_ofMinutes_zero : (Walk.ofMinutes start stop 0).instants = [] := by
  have hend : ¬ (Walk.ofMinutes start stop 0).goesOn = true := by
    simp [Walk.ofMinutes, Walk.goesOn]
  rw [Walk.instants, dif_neg hend]

theorem Walk.step_pos (hminutes : 0 < minutes) : 0 < (minutes : Int) * Instant.msPerMinute :=
  Int.mul_pos (Int.natCast_pos.2 hminutes) (by decide)

theorem Walk.ofMinutes_of_pos (hminutes : 0 < minutes) :
    Walk.ofMinutes start stop minutes =
      { next := start, stop, step := minutes * Instant.msPerMinute } := by
  rw [Walk.ofMinutes, if_pos (Walk.step_pos hminutes)]

theorem Walk.instants_ofMinutes (hminutes : 0 < minutes) (hstart : Instant.least ≤ start)
    (hstop : stop ≤ Instant.greatest) :
    (Walk.ofMinutes start stop minutes).instants =
      Walk.grid start (minutes * Instant.msPerMinute)
        (Walk.ofMinutes start stop minutes).count := by
  rw [Walk.ofMinutes_of_pos hminutes]
  exact Walk.instants_eq_grid (Walk.step_pos hminutes) hstart hstop

theorem Walk.pairwise_instants_ofMinutes (hstart : Instant.least ≤ start)
    (hstop : stop ≤ Instant.greatest) :
    (Walk.ofMinutes start stop minutes).instants.Pairwise (· < ·) := by
  cases Nat.eq_zero_or_pos minutes with
  | inl hzero =>
    rw [hzero, Walk.instants_ofMinutes_zero]
    exact .nil
  | inr hminutes =>
    rw [Walk.instants_ofMinutes hminutes hstart hstop]
    exact Walk.pairwise_grid (Walk.step_pos hminutes)

theorem Walk.mem_instants_ofMinutes (hstart : Instant.least ≤ start)
    (hstop : stop ≤ Instant.greatest) {t : Int} :
    t ∈ (Walk.ofMinutes start stop minutes).instants ↔
      0 < minutes ∧ ∃ k : Nat, t = start + k * (minutes * 60000) ∧ t < stop := by
  cases Nat.eq_zero_or_pos minutes with
  | inl hzero => simp [hzero, Walk.instants_ofMinutes_zero]
  | inr hminutes =>
    rw [Walk.instants_ofMinutes hminutes hstart hstop, Walk.mem_grid, Walk.ofMinutes_of_pos hminutes,
      and_iff_right hminutes]
    refine exists_congr fun k => ?_
    rw [Walk.lt_count_iff (Walk.step_pos hminutes), and_comm]
    constructor
    · rintro ⟨rfl, hlt⟩
      exact ⟨rfl, hlt⟩
    · rintro ⟨rfl, hlt⟩
      exact ⟨rfl, hlt⟩

theorem Instant.saturate_add_saturate {a b : Int} (ha : 0 ≤ a) (hb : 0 ≤ b) :
    Instant.saturate (a + Instant.saturate b) = min Instant.greatest (a + b) := by
  simp only [Instant.saturate, Instant.least, Instant.greatest]
  omega

/-- The cut of a window whose start is not negative does not saturate below its stop. -/
theorem Walk.cutStop?_eq (hminutes : 0 < minutes) (hstart : 0 ≤ start)
    (hstop : stop ≤ Instant.greatest) (n : Nat) :
    Walk.cutStop? start stop minutes n =
      if start + n * (minutes * Instant.msPerMinute) < stop then
        some (start + n * (minutes * Instant.msPerMinute))
      else none := by
  have hpos := Walk.step_pos hminutes
  have hsteps : 0 ≤ n * (minutes * Instant.msPerMinute) :=
    Int.mul_nonneg (Int.natCast_nonneg n) (Int.le_of_lt hpos)
  have hstep : (minutes * Instant.msPerMinute == 0) = false :=
    beq_eq_false_iff_ne.2 (Int.ne_of_gt hpos)
  simp only [Walk.cutStop?, Int.mul_comm _ (n : Int), hstep, Bool.false_or,
    Instant.saturate_add_saturate hstart hsteps, Bool.or_eq_true, decide_eq_true_eq]
  by_cases hlt : start + n * (minutes * Instant.msPerMinute) < stop
  · rw [if_pos hlt, Int.min_eq_right (by omega), if_neg (by omega)]
  · rw [if_neg hlt, if_pos (by omega)]

/-- **A window is cut exactly if it has more instants than steps are allowed, and then after as many.** -/
theorem Walk.cutStop?_spec (hstart : 0 ≤ start) (hstop : stop ≤ Instant.greatest)
    (minutes n : Nat) :
    Walk.cutStop? start stop minutes n = none ∧
      (Walk.ofMinutes start stop minutes).instants.length ≤ n ∨
    ∃ cut, Walk.cutStop? start stop minutes n = some cut ∧
      n < (Walk.ofMinutes start stop minutes).instants.length ∧
      (Walk.ofMinutes start cut minutes).instants =
        (Walk.ofMinutes start stop minutes).instants.take n := by
  cases Nat.eq_zero_or_pos minutes with
  | inl hzero =>
    rw [hzero, Walk.instants_ofMinutes_zero]
    exact .inl ⟨by simp [Walk.cutStop?], Nat.zero_le n⟩
  | inr hminutes =>
    have hpos := Walk.step_pos hminutes
    have hleast : Instant.least ≤ start := Int.le_trans (by decide) hstart
    have hcount (k : Nat) (stop : Int) : k < (Walk.ofMinutes start stop minutes).count ↔
        start + k * (minutes * Instant.msPerMinute) < stop := by
      rw [Walk.ofMinutes_of_pos hminutes, Walk.lt_count_iff hpos]
    rw [Walk.cutStop?_eq hminutes hstart hstop, Walk.instants_ofMinutes hminutes hleast hstop,
      Walk.length_grid, Walk.take_grid]
    by_cases hlt : start + n * (minutes * Instant.msPerMinute) < stop
    · have hmore := (hcount n stop).2 hlt
      have hcut : (Walk.ofMinutes start (start + n * (minutes * Instant.msPerMinute)) minutes).count =
          n := by
        refine eq_of_forall_lt_iff fun k => ?_
        rw [hcount, Int.add_lt_add_iff_left, Int.mul_lt_mul_right hpos, Int.ofNat_lt]
      refine .inr ⟨_, if_pos hlt, hmore, ?_⟩
      rw [Walk.instants_ofMinutes hminutes hleast (Int.le_trans (Int.le_of_lt hlt) hstop), hcut,
        Nat.min_eq_left (Nat.le_of_lt hmore)]
    · exact .inl ⟨if_neg hlt, Nat.le_of_not_lt fun hmore => hlt ((hcount n stop).1 hmore)⟩

theorem Walk.isSome_cutStop? (hstart : 0 ≤ start) (hstop : stop ≤ Instant.greatest)
    (minutes n : Nat) :
    (Walk.cutStop? start stop minutes n).isSome =
      decide (n < (Walk.ofMinutes start stop minutes).instants.length) := by
  rcases Walk.cutStop?_spec hstart hstop minutes n with ⟨hcut, hlength⟩ | ⟨cut, hcut, hlength, -⟩
  · rw [hcut, decide_eq_false (Nat.not_lt.2 hlength), Option.isSome_none]
  · rw [hcut, decide_eq_true hlength, Option.isSome_some]

/-- A walk up to the cut looks at the first instants of the window, whether something was cut off or not. -/
theorem Walk.instants_cutStop? (hstart : 0 ≤ start) (hstop : stop ≤ Instant.greatest)
    (minutes n : Nat) :
    (Walk.ofMinutes start ((Walk.cutStop? start stop minutes n).getD stop) minutes).instants =
      (Walk.ofMinutes start stop minutes).instants.take n := by
  rcases Walk.cutStop?_spec hstart hstop minutes n with ⟨hcut, hlength⟩ | ⟨cut, hcut, -, hinstants⟩
  · rw [hcut, Option.getD_none, List.take_of_length_le hlength]
  · rw [hcut, Option.getD_some, hinstants]

end

end Booking
