import Booking.Proofs.Availability.Walk
import Mathlib.Data.Set.Card
/-!
# The slots that a walk returns

A walk is asked again and again for the next available instant, until there is none. What it returns are
the available ones among the instants of its window, each once and in their order, wherever the window
lies and however wide the step is (`Availability.walk_yields_slots`). A window that is cut to so many
steps has no more instants than that, and its slots come first in the whole window; from the epoch on
nothing saturates below the stop, and what is cut off is all but the first instants
(`Availability.cut_keeps_first_slots`).
-/
namespace Booking

/-- The walk returns these instants, one each time that it is asked for the next one that passes the
test, and the last walk is what is left of it then. -/
inductive Walk.Returns (test : Int → Bool) : Walk → List Int → Walk → Prop where
  | nothing (w : Walk) : Returns test w [] w
  | next {w w' rest : Walk} {t : Int} {ts : List Int} (hfind : w.find? test = some (t, w'))
      (hrest : Returns test w' ts rest) : Returns test w (t :: ts) rest

/-- The walk returns these instants, and then there is none any more. -/
def Walk.Yields (test : Int → Bool) (w : Walk) (ts : List Int) : Prop :=
  ∃ rest, w.Returns test ts rest ∧ rest.find? test = none

/-- The instants of a window: those at full steps from its start that are before its stop. -/
def Walk.window (start stop : Int) (minutes : Nat) : Set Int :=
  {t | ∃ k : Nat, t = start + k * (minutes * 60000) ∧ t < stop}

/-! ## The end of a walk -/

section

variable (w : Walk)

theorem Walk.step_iterate_tail : ∀ (k : Nat) (w : Walk), (Walk.tail^[k] w).step = w.step
  | 0, _ => rfl
  | k + 1, w => Walk.step_iterate_tail k w.tail

theorem Walk.stop_iterate_tail : ∀ (k : Nat) (w : Walk), (Walk.tail^[k] w).stop = w.stop
  | 0, _ => rfl
  | k + 1, w => Walk.stop_iterate_tail k w.tail

theorem Walk.exists_iterate_tail_not_goesOn : ∃ k : Nat, ¬ (Walk.tail^[k] w).goesOn = true := by
  induction w using Walk.instants.induct with
  | case1 w _ ih =>
    obtain ⟨k, hk⟩ := ih
    exact ⟨k + 1, hk⟩
  | case2 w hend => exact ⟨0, hend⟩

end

section

variable {start stop : Int} {minutes : Nat}

/-- A walk with a step of zero starts at its stop and stays there. -/
theorem Walk.stop_le_next_iterate_tail_zero (start : Int) (hstop : stop ≤ Instant.greatest) (k : Nat) :
    stop ≤ (Walk.tail^[k] (Walk.ofMinutes start stop 0)).next := by
  induction k with
  | zero => simp [Walk.ofMinutes]
  | succ k ih =>
    have hstep : (Walk.tail^[k] (Walk.ofMinutes start stop 0)).step = 0 := by
      rw [Walk.step_iterate_tail]
      exact Int.zero_mul _
    rw [Function.iterate_succ_apply']
    simp only [Walk.tail, Instant.saturate, hstep]
    omega

/-- **Only the stop ends a walk.** Wherever it is, it goes on if it is before its stop: neither the last
instant nor a step of zero is ever what keeps it from going on. -/
theorem Walk.goesOn_iterate_tail (hstop : stop ≤ Instant.greatest) (k : Nat) :
    (Walk.tail^[k] (Walk.ofMinutes start stop minutes)).goesOn = true ↔
      (Walk.tail^[k] (Walk.ofMinutes start stop minutes)).next < stop := by
  have hend : (Walk.tail^[k] (Walk.ofMinutes start stop minutes)).stop = stop :=
    Walk.stop_iterate_tail k _
  cases Nat.eq_zero_or_pos minutes with
  | inl hzero =>
    subst hzero
    have hnext := Walk.stop_le_next_iterate_tail_zero start hstop k
    simp only [Walk.goesOn, hend, Bool.and_eq_true, decide_eq_true_eq]
    omega
  | inr hminutes =>
    have hstep : 0 < (Walk.tail^[k] (Walk.ofMinutes start stop minutes)).step := by
      rw [Walk.step_iterate_tail]
      exact Walk.step_pos hminutes
    rw [Walk.goesOn_iff hstep (hend.trans_le hstop), hend]

theorem Walk.exists_stop_le_iterate_tail (hstop : stop ≤ Instant.greatest) :
    ∃ k : Nat, stop ≤ (Walk.tail^[k] (Walk.ofMinutes start stop minutes)).next := by
  obtain ⟨k, hk⟩ := (Walk.ofMinutes start stop minutes).exists_iterate_tail_not_goesOn
  rw [Walk.goesOn_iterate_tail hstop] at hk
  exact ⟨k, Int.not_lt.1 hk⟩

end

/-! ## What a walk returns -/

section

variable {test : Int → Bool} {w rest : Walk} {ts : List Int}

theorem Walk.filter_instants_of_none (h : w.find? test = none) : w.instants.filter test = [] := by
  rcases w.find?_spec test with ⟨-, hnone⟩ | ⟨t, w', hfind, -⟩
  · exact hnone
  · rw [h] at hfind
    cases hfind

theorem Walk.filter_instants_of_some {t : Int} {w' : Walk} (h : w.find? test = some (t, w')) :
    w.instants.filter test = t :: w'.instants.filter test := by
  rcases w.find?_spec test with ⟨hfind, -⟩ | ⟨t', w'', hfind, hsome⟩
  · rw [h] at hfind
    cases hfind
  · rw [h] at hfind
    cases hfind
    exact hsome

/-- **Whatever a walk has returned, the others of its instants that pass the test are those of what is
left of it.** -/
theorem Walk.Returns.filter_instants (h : w.Returns test ts rest) :
    w.instants.filter test = ts ++ rest.instants.filter test := by
  induction h with
  | nothing w => rfl
  | next hfind _ ih => rw [Walk.filter_instants_of_some hfind, ih, List.cons_append]

theorem Walk.yields_of_filter_instants : ∀ (ts : List Int) {w : Walk},
    w.instants.filter test = ts → w.Yields test ts
  | [], w, h => by
    rcases w.find?_spec test with ⟨hfind, -⟩ | ⟨t, w', -, hsome⟩
    · exact ⟨w, .nothing w, hfind⟩
    · rw [h] at hsome
      cases hsome
  | t :: ts, w, h => by
    rcases w.find?_spec test with ⟨-, hnone⟩ | ⟨t', w', hfind, hsome⟩
    · rw [h] at hnone
      cases hnone
    · rw [h] at hsome
      obtain ⟨rfl, hts⟩ := List.cons.inj hsome
      obtain ⟨rest, hreturns, hend⟩ := Walk.yields_of_filter_instants ts hts.symm
      exact ⟨rest, .next hfind hreturns, hend⟩

/-- **A walk yields its instants that pass the test, and nothing else.** -/
theorem Walk.yields_iff : w.Yields test ts ↔ ts = w.instants.filter test := by
  refine ⟨?_, fun h => Walk.yields_of_filter_instants ts h.symm⟩
  rintro ⟨rest, hreturns, hend⟩
  rw [hreturns.filter_instants, Walk.filter_instants_of_none hend, List.append_nil]

end

theorem Pattern.isRepresentable_of_accepts {p : Pattern} {t : Int} (h : p.accepts t = true) :
    Instant.isRepresentable t = true := by
  rw [← Sample.ofInstant?_isSome]
  unfold Pattern.accepts at h
  cases hsample : Sample.ofInstant? t with
  | none =>
    rw [hsample] at h
    cases h
  | some s => rfl

theorem Availability.isRepresentable_of_isAvailable {a : Availability} {t : Int}
    (h : a.isAvailable t = true) : Instant.isRepresentable t = true := by
  obtain ⟨p, -, haccepts⟩ := List.any_eq_true.1 h
  exact Pattern.isRepresentable_of_accepts haccepts

/-- **A walk yields the available instants of its window**, in their order and each once: those at full
steps from the start and before the stop, none if the step is zero. There are only finitely many, all of
them have a date, and no other list is yielded. Whatever was returned before, what is left of the walk
yields the others, however often it is asked; and the first so many slots are the first of the list. Step
after step the walk comes to its stop, and nothing else ends it. -/
theorem Availability.walk_yields_slots (a : Availability) {start stop : Int} (minutes : Nat)
    (hstart : Instant.least ≤ start) (hstop : stop ≤ Instant.greatest) :
    ∃ slots : List Int,
      (∀ ts, (Walk.ofMinutes start stop minutes).Yields a.isAvailable ts ↔ ts = slots) ∧
      (slots.Pairwise (· < ·) ∧ ∀ t, t ∈ slots ↔
        0 < minutes ∧ (∃ k : Nat, t = start + k * (minutes * 60000)) ∧ t < stop ∧
          a.isAvailable t = true) ∧
      (∀ t ∈ slots, Instant.isRepresentable t = true) ∧
      (∀ ts rest, (Walk.ofMinutes start stop minutes).Returns a.isAvailable ts rest →
        ∃ later, slots = ts ++ later ∧ rest.Yields a.isAvailable later) ∧
      (∀ limit, a.slots start stop minutes limit = slots.take limit) ∧
      (∀ k : Nat, (Walk.tail^[k] (Walk.ofMinutes start stop minutes)).goesOn = true ↔
        (Walk.tail^[k] (Walk.ofMinutes start stop minutes)).next < stop) ∧
      ∃ k : Nat, stop ≤ (Walk.tail^[k] (Walk.ofMinutes start stop minutes)).next := by
  refine ⟨(Walk.ofMinutes start stop minutes).instants.filter a.isAvailable,
    fun ts => Walk.yields_iff,
    ⟨(Walk.pairwise_instants_ofMinutes hstart hstop).filter _, fun t => ?_⟩, fun t ht => ?_,
    fun ts rest hreturns => ⟨_, hreturns.filter_instants, Walk.yields_iff.2 rfl⟩,
    fun limit => Walk.take_eq _ _ _, Walk.goesOn_iterate_tail hstop,
    Walk.exists_stop_le_iterate_tail hstop⟩
  · rw [List.mem_filter, Walk.mem_instants_ofMinutes hstart hstop]
    constructor
    · rintro ⟨⟨hminutes, k, hk, hlt⟩, havailable⟩
      exact ⟨hminutes, ⟨k, hk⟩, hlt, havailable⟩
    · rintro ⟨hminutes, ⟨k, hk⟩, hlt, havailable⟩
      exact ⟨⟨hminutes, k, hk, hlt⟩, havailable⟩
  · exact Availability.isRepresentable_of_isAvailable (List.mem_filter.1 ht).2

/-- From a minute before the first date: the first minute that has one, and the next. -/
theorem Availability.walk_yields_slots_firstMinutes :
    let always : Pattern := ⟨[.any], [.any], [.any], [.any], [.any]⟩
    let a := (Availability.ofQuota ⟨1, .day⟩).add always
    (Instant.least ≤ -8334601228860000 ∧ -8334601228700000 ≤ Instant.greatest) ∧
    (Walk.ofMinutes (-8334601228860000) (-8334601228700000) 1).Yields a.isAvailable
      [-8334601228800000, -8334601228740000] := by
  intro always a
  have hstart : Instant.least ≤ -8334601228860000 := by decide
  have hstop : -8334601228700000 ≤ Instant.greatest := by decide
  obtain ⟨slots, hyields, ⟨hsorted, hmem⟩, -⟩ := a.walk_yields_slots 1 hstart hstop
  refine ⟨⟨hstart, hstop⟩, (hyields _).2 ?_⟩
  refine List.Pairwise.eq_of_mem_iff ?_ hsorted fun t => ((hmem t).trans ?_).symm
  · decide
  constructor
  · rintro ⟨-, ⟨k, rfl⟩, hlt, havailable⟩
    obtain rfl | rfl | rfl : k = 0 ∨ k = 1 ∨ k = 2 := by omega
    · revert havailable
      decide +kernel
    · simp
    · simp
  · intro ht
    simp only [List.mem_cons, List.not_mem_nil, or_false] at ht
    rcases ht with rfl | rfl
    · exact ⟨by decide, ⟨1, rfl⟩, by decide, by decide +kernel⟩
    · exact ⟨by decide, ⟨2, rfl⟩, by decide, by decide +kernel⟩

/-! ## Cut windows -/

section

variable {start stop cut : Int} {minutes : Nat}

theorem Walk.lt_count_ofMinutes_iff (hminutes : 0 < minutes) {k : Nat} :
    k < (Walk.ofMinutes start stop minutes).count ↔ start + k * (minutes * 60000) < stop := by
  rw [Walk.ofMinutes_of_pos hminutes]
  exact Walk.lt_count_iff (Walk.step_pos hminutes)

theorem Walk.mem_window {t : Int} : t ∈ Walk.window start stop minutes ↔
    ∃ k : Nat, t = start + k * (minutes * 60000) ∧ t < stop := Iff.rfl

theorem Walk.window_eq_image (hminutes : 0 < minutes) :
    Walk.window start stop minutes = (fun k : Nat => start + k * (minutes * 60000)) ''
      Finset.range (Walk.ofMinutes start stop minutes).count := by
  ext t
  simp only [Walk.mem_window, Set.mem_image, Finset.coe_range, Set.mem_Iio,
    Walk.lt_count_ofMinutes_iff hminutes]
  constructor
  · rintro ⟨k, rfl, hlt⟩
    exact ⟨k, hlt, rfl⟩
  · rintro ⟨k, hlt, rfl⟩
    exact ⟨k, rfl, hlt⟩

/-- **The number of instants of a window.** -/
theorem Walk.encard_window (hminutes : 0 < minutes) :
    (Walk.window start stop minutes).encard = (Walk.ofMinutes start stop minutes).count := by
  have hinjective : Function.Injective (fun k : Nat => start + (k : Int) * (minutes * 60000)) := by
    intro k k' hk
    have hmul : (k : Int) * (minutes * 60000) = k' * (minutes * 60000) := by simpa using hk
    exact Int.ofNat_inj.1 (Int.eq_of_mul_eq_mul_right (by omega) hmul)
  rw [Walk.window_eq_image hminutes, hinjective.encard_image, Set.encard_coe_eq_coe_finsetCard,
    Finset.card_range]

theorem Walk.lt_encard_window_iff (hminutes : 0 < minutes) {n : Nat} :
    n < (Walk.window start stop minutes).encard ↔ start + n * (minutes * 60000) < stop := by
  rw [Walk.encard_window hminutes, Nat.cast_lt, Walk.lt_count_ofMinutes_iff hminutes]

/-- A window of whole steps has as many instants. -/
theorem Walk.window_add (hminutes : 0 < minutes) (n : Nat) :
    Walk.window start (start + n * (minutes * 60000)) minutes =
      {t | ∃ k : Nat, k < n ∧ t = start + k * (minutes * 60000)} := by
  refine Set.ext fun t => exists_congr fun k => ?_
  rw [and_comm]
  refine and_congr_left fun ht => ?_
  have hpos : 0 < (minutes : Int) * 60000 := Walk.step_pos hminutes
  rw [ht, Int.add_lt_add_iff_left, Int.mul_lt_mul_right hpos, Int.ofNat_lt]

theorem Instant.saturate_add_saturate_le {x y : Int} (hx : Instant.least ≤ x) (hy : 0 ≤ y) :
    Instant.saturate (x + Instant.saturate y) ≤ x + y := by
  simp only [Instant.saturate, Instant.least, Instant.greatest] at *
  omega

theorem Walk.getD_cutStop?_le_stop (start stop : Int) (minutes : Nat) (steps : Int) :
    (Walk.cutStop? start stop minutes steps).getD stop ≤ stop := by
  simp only [Walk.cutStop?]
  split
  · exact Int.le_refl stop
  · rename_i hlong
    rw [Bool.not_eq_true, Bool.or_eq_false_iff, decide_eq_false_iff_not] at hlong
    exact Int.le_of_lt (Int.not_le.1 hlong.2)

/-- The cut is never late, though it is early where the steps of a start before the epoch saturate. -/
theorem Walk.getD_cutStop?_le (hminutes : 0 < minutes) (hstart : Instant.least ≤ start) (n : Nat) :
    (Walk.cutStop? start stop minutes n).getD stop ≤ start + n * (minutes * 60000) := by
  have hpos : 0 < (minutes : Int) * 60000 := Walk.step_pos hminutes
  have hsteps : 0 ≤ (n : Int) * (minutes * 60000) :=
    Int.mul_nonneg (Int.natCast_nonneg n) (Int.le_of_lt hpos)
  have hlimit := Instant.saturate_add_saturate_le hstart hsteps
  have hstep : ((minutes : Int) * 60000 == 0) = false := beq_eq_false_iff_ne.2 (Int.ne_of_gt hpos)
  simp only [Walk.cutStop?, Instant.msPerMinute, Int.mul_comm _ (n : Int), hstep, Bool.false_or]
  split
  · rename_i hshort
    rw [Bool.or_eq_true, decide_eq_true_eq, decide_eq_true_eq] at hshort
    rw [Option.getD_none]
    omega
  · exact hlimit

theorem Walk.instants_ofMinutes_prefix (hstart : Instant.least ≤ start)
    (hstop : stop ≤ Instant.greatest) (hcut : cut ≤ stop) :
    (Walk.ofMinutes start cut minutes).instants <+: (Walk.ofMinutes start stop minutes).instants := by
  cases Nat.eq_zero_or_pos minutes with
  | inl hzero =>
    rw [hzero, Walk.instants_ofMinutes_zero]
    exact List.nil_prefix
  | inr hminutes =>
    have hcount : (Walk.ofMinutes start cut minutes).count ≤
        (Walk.ofMinutes start stop minutes).count := by
      refine le_of_forall_lt fun k hk => ?_
      rw [Walk.lt_count_ofMinutes_iff hminutes] at hk ⊢
      exact Int.lt_of_lt_of_le hk hcut
    rw [Walk.instants_ofMinutes hminutes hstart (Int.le_trans hcut hstop),
      Walk.instants_ofMinutes hminutes hstart hstop]
    rw [← Nat.min_eq_left hcount, ← Walk.take_grid]
    exact List.take_prefix _ _

end

/-- **A window that is cut to `n` steps has at most `n` instants, and its slots come first among those of
the whole window.** If the window starts at the epoch or later, it is cut exactly if it has more than `n`
instants, and then what is kept are the first `n` of them: no sum or product saturates below the stop. -/
theorem Availability.cut_keeps_first_slots (a : Availability) {start stop : Int} (minutes n : Nat)
    (hstart : Instant.least ≤ start) (hstop : stop ≤ Instant.greatest) :
    let cut? := Walk.cutStop? start stop minutes n
    (0 < minutes → (Walk.window start (cut?.getD stop) minutes).encard ≤ n) ∧
    (∃ slots slots', (Walk.ofMinutes start (cut?.getD stop) minutes).Yields a.isAvailable slots ∧
      (Walk.ofMinutes start stop minutes).Yields a.isAvailable slots' ∧ slots <+: slots') ∧
    (0 ≤ start →
      (cut?.isSome ↔ 0 < minutes ∧ n < (Walk.window start stop minutes).encard) ∧
      ∀ cut, cut? = some cut →
        cut = start + n * (minutes * 60000) ∧
        Walk.window start cut minutes =
          {t | ∃ k : Nat, k < n ∧ t = start + k * (minutes * 60000)}) := by
  intro cut?
  refine ⟨fun hminutes => ?_, ?_, fun hzero => ?_⟩
  · rw [← not_lt, Walk.lt_encard_window_iff hminutes, Int.not_lt]
    exact Walk.getD_cutStop?_le hminutes hstart n
  · have hprefix : (Walk.ofMinutes start (cut?.getD stop) minutes).instants <+:
        (Walk.ofMinutes start stop minutes).instants :=
      Walk.instants_ofMinutes_prefix hstart hstop (Walk.getD_cutStop?_le_stop start stop minutes n)
    exact ⟨_, _, Walk.yields_iff.2 rfl, Walk.yields_iff.2 rfl, hprefix.filter _⟩
  · cases Nat.eq_zero_or_pos minutes with
    | inl hnone =>
      have hcut : cut? = none := by simp [cut?, hnone, Walk.cutStop?]
      simp [hcut, hnone]
    | inr hminutes =>
      have hcut : cut? = if start + n * (minutes * 60000) < stop then
          some (start + n * (minutes * 60000)) else none :=
        Walk.cutStop?_eq hminutes hzero hstop n
      rw [hcut, and_iff_right hminutes, Walk.lt_encard_window_iff hminutes]
      refine ⟨by simp, fun cut hsome => ?_⟩
      obtain ⟨-, hsome⟩ := Option.ite_none_right_eq_some.1 hsome
      cases hsome
      exact ⟨rfl, Walk.window_add hminutes n⟩

/-- The widest steps from the first of all instants on: the product saturates, and the window is cut a
millisecond before the epoch, after less than a million steps. A window of eleven minutes is cut after
ten. -/
theorem Availability.cut_keeps_first_slots_saturated :
    (Walk.cutStop? Instant.least Instant.greatest 4294967295 1000000 = some (-1) ∧
      (Walk.window Instant.least (-1) 4294967295).encard ≤ 1000000) ∧
    Walk.cutStop? 1682899200000 1682899860000 1 10 = some 1682899800000 ∧
      10 < (Walk.window 1682899200000 1682899860000 1).encard ∧
      Walk.window 1682899200000 1682899800000 1 =
        {t : Int | ∃ k : Nat, k < 10 ∧ t = 1682899200000 + k * 60000} := by
  have hcut : Walk.cutStop? Instant.least Instant.greatest 4294967295 1000000 = some (-1) := by decide
  have hcut' : Walk.cutStop? 1682899200000 1682899860000 1 10 = some 1682899800000 := by decide
  obtain ⟨hle, -, -⟩ := Availability.cut_keeps_first_slots (.ofQuota ⟨1, .day⟩) 4294967295 1000000
    (Int.le_refl Instant.least) (Int.le_refl Instant.greatest)
  have hstart : Instant.least ≤ 1682899200000 := by decide
  have hstop : 1682899860000 ≤ Instant.greatest := by decide
  obtain ⟨-, -, hfirst⟩ :=
    Availability.cut_keeps_first_slots (.ofQuota ⟨1, .day⟩) 1 10 hstart hstop
  obtain ⟨hmore, hkept⟩ := hfirst (by decide)
  have hfew := hle (by decide)
  rw [Nat.cast_ofNat, hcut] at hfew
  rw [Nat.cast_ofNat, hcut'] at hmore
  have hten := (hkept _ hcut').2
  rw [Nat.cast_one, Int.one_mul] at hten
  exact ⟨⟨hcut, hfew⟩, hcut', (hmore.1 rfl).2, hten⟩

end Booking
