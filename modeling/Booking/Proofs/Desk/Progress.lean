import Booking.Proofs.Desk.Locks
/-!
# Calls come to an end

A call has at most eight steps to take, and as long as some call is not over, some call can take
one. So no way of taking turns goes on for ever, and `Traffic.run` lets every call come to its end.
-/
namespace Booking

/-- How many steps the call may still take. -/
def Call.Phase.remaining : Call.Phase → Nat
  | .arrived => 8
  | .checked => 7
  | .waiting _ => 6
  | .holding _ => 5
  | .decided _ _ => 4
  | .settled _ _ => 3
  | .released _ _ => 2
  | .leaving _ => 1
  | .finished _ | .abandoned => 0

def Call.totalRemaining : List Call → Nat
  | [] => 0
  | c :: cs => c.phase.remaining + Call.totalRemaining cs

def Traffic.remaining (t : Traffic) : Nat := Call.totalRemaining t.calls

theorem Call.Phase.remaining_le (p : Call.Phase) : p.remaining ≤ Call.maxSteps := by
  cases p <;> simp [Call.Phase.remaining, Call.maxSteps]

theorem Call.Phase.isOver_of_remaining {p : Call.Phase} (h : p.remaining = 0) : p.isOver = true := by
  cases p <;> first | rfl | cases h

theorem Call.remaining_le_total : ∀ {cs : List Call} {c : Call}, c ∈ cs →
    c.phase.remaining ≤ Call.totalRemaining cs
  | c₀ :: cs, c, hc => by
    rw [Call.totalRemaining]
    rcases List.mem_cons.1 hc with rfl | hc
    · omega
    · have ih := Call.remaining_le_total hc
      omega

theorem Traffic.isOver_of_remaining {t : Traffic} (h : t.remaining = 0) : t.isOver = true := by
  refine List.all_eq_true.2 (fun c hc => Call.Phase.isOver_of_remaining ?_)
  have hle := Call.remaining_le_total hc
  rw [Traffic.remaining] at h
  omega

theorem Call.totalRemaining_le : ∀ (cs : List Call),
    Call.totalRemaining cs ≤ Call.maxSteps * cs.length
  | [] => Nat.le_refl 0
  | c :: cs => by
    have hc := c.phase.remaining_le
    have ih := Call.totalRemaining_le cs
    rw [Call.totalRemaining, List.length_cons, Nat.mul_succ]
    omega

/-! ## One step -/

theorem Traffic.Step.exists_move {t t' : Traffic} {i : Nat} {c : Call} (h : t.Step i c t') :
    ∃ phase, t'.calls = (t.move i phase).calls ∧ phase.remaining < c.phase.remaining := by
  cases h with
  | take hp =>
    obtain ⟨lock, hcalls, -⟩ := t.takeHandle_spec i c.user
    refine ⟨.waiting lock, hcalls, ?_⟩
    rw [hp]
    simp [Call.Phase.remaining]
  | refuse _ hp | check hp | acquire _ hp | decide _ hp | discard _ _ hp | enter _ hp
  | release _ _ hp | drop _ _ hp | leave _ hp =>
    refine ⟨_, rfl, ?_⟩
    rw [hp]
    simp [Call.Phase.remaining]

theorem Call.totalRemaining_modify_lt {phase : Call.Phase} : ∀ {cs : List Call} {i : Nat}
    {c : Call}, cs[i]? = some c → phase.remaining < c.phase.remaining →
      Call.totalRemaining (cs.modify i (fun c => { c with phase })) < Call.totalRemaining cs
  | [], _, _, hc, _ => by cases hc
  | c₀ :: cs, 0, c, hc, h => by
    cases hc
    simp only [List.modify_zero_cons, Call.totalRemaining]
    omega
  | c₀ :: cs, i + 1, c, hc, h => by
    have ih := Call.totalRemaining_modify_lt (show cs[i]? = some c from hc) h
    simp only [List.modify_succ_cons, Call.totalRemaining]
    omega

theorem Traffic.remaining_lt_of_step {t t' : Traffic} {i : Nat} (h : t.step? i = some t') :
    t'.remaining < t.remaining := by
  obtain ⟨c, hc, hstep⟩ := Traffic.step_of_step? h
  obtain ⟨phase, hcalls, hlt⟩ := hstep.exists_move
  rw [Traffic.remaining, hcalls]
  exact Call.totalRemaining_modify_lt hc hlt

/-- **The traffic is never stuck**: as long as some call is not over, some call can move. One that
waits for a lock waits for a call that holds it, and that one can. -/
theorem Traffic.exists_step {t : Traffic} (h : t.isOver = false) : ∃ i, (t.step? i).isSome := by
  have hmoves : ∀ (i : Nat) (c : Call), t.calls[i]? = some c → c.phase.isOver = false →
      (∀ lock, c.phase = .waiting lock → t.isHeld lock = false) → (t.step? i).isSome := by
    intro i c hc hover hwait
    unfold Traffic.step?
    rw [hc]
    simp only
    split <;> rename_i hp
    · split <;> rfl
    · rfl
    · rw [hwait _ hp]; rfl
    · rfl
    · rfl
    · rfl
    · rfl
    · rfl
    · rfl
    · rw [hp] at hover; cases hover
    · rw [hp] at hover; cases hover
  obtain ⟨c, hmem, hover⟩ := List.all_eq_false.1 h
  obtain ⟨i, hc⟩ := List.mem_iff_getElem?.1 hmem
  by_cases hheld : ∃ lock, c.phase = .waiting lock ∧ t.isHeld lock = true
  · obtain ⟨lock, -, hlock⟩ := hheld
    obtain ⟨c', hmem', hc'⟩ := List.any_eq_true.1 hlock
    obtain ⟨j, hj⟩ := List.mem_iff_getElem?.1 hmem'
    refine ⟨j, hmoves j c' hj ?_ ?_⟩
    · cases hp : c'.phase <;> rw [hp] at hc' <;> first | rfl | cases hc'
    · intro lock' hp
      rw [hp] at hc'
      cases hc'
  · refine ⟨i, hmoves i c hc (by simpa using hover) (fun lock hp => ?_)⟩
    cases hl : t.isHeld lock with
    | false => rfl
    | true => exact absurd ⟨lock, hp, hl⟩ hheld

/-! ## Many steps -/

/-- **No run takes more steps than its calls have.** -/
theorem Traffic.remaining_add_length_le : ∀ {moves : List Nat} {t t' : Traffic},
    t.follow? moves = some t' → t'.remaining + moves.length ≤ t.remaining
  | [], _, _, h => by
    cases h
    exact Nat.le_of_eq (Nat.add_zero _)
  | i :: moves, t, t', h => by
    obtain ⟨t₁, h₁, ht₁⟩ := Option.bind_eq_some_iff.1 h
    have hlt := Traffic.remaining_lt_of_step h₁
    have ih := Traffic.remaining_add_length_le ht₁
    rw [List.length_cons]
    omega

theorem Traffic.follow?_append : ∀ (as bs : List Nat) (t : Traffic),
    t.follow? (as ++ bs) = (t.follow? as).bind (fun t => t.follow? bs)
  | [], _, _ => rfl
  | a :: as, bs, t => by
    rw [List.cons_append, Traffic.follow?, Traffic.follow?, Option.bind_assoc]
    exact congrArg _ (funext (fun t => Traffic.follow?_append as bs t))

/-- Letting the calls take turns is a run, in which someone moves if someone can at first. -/
theorem Traffic.exists_follow_foldl : ∀ (is : List Nat) (t : Traffic),
    ∃ moves, t.follow? moves = some (is.foldl (fun t i => (t.step? i).getD t) t) ∧
      ∀ i ∈ is, (t.step? i).isSome → moves ≠ []
  | [], t => ⟨[], rfl, fun _ hi => by cases hi⟩
  | i :: is, t => by
    cases hstep : t.step? i with
    | none =>
      obtain ⟨moves, hmoves, hne⟩ := Traffic.exists_follow_foldl is t
      refine ⟨moves, ?_, fun j hj hsome => ?_⟩
      · rw [hmoves, List.foldl_cons, hstep]
        rfl
      · rcases List.mem_cons.1 hj with rfl | hj
        · rw [hstep] at hsome
          cases hsome
        · exact hne j hj hsome
    | some t' =>
      obtain ⟨moves, hmoves, -⟩ := Traffic.exists_follow_foldl is t'
      refine ⟨i :: moves, ?_, fun _ _ _ => List.cons_ne_nil i moves⟩
      rw [Traffic.follow?, hstep, Option.bind_some, hmoves, List.foldl_cons, hstep]
      rfl

theorem Traffic.exists_follow_round (t : Traffic) :
    ∃ moves, t.follow? moves = some t.round ∧ (t.isOver = false → moves ≠ []) := by
  obtain ⟨moves, hmoves, hne⟩ := Traffic.exists_follow_foldl (List.range t.calls.length) t
  refine ⟨moves, hmoves, fun hover => ?_⟩
  obtain ⟨i, hi⟩ := Traffic.exists_step hover
  refine hne i ?_ hi
  obtain ⟨t', ht'⟩ := Option.isSome_iff_exists.1 hi
  obtain ⟨c, hc, -⟩ := Traffic.step_of_step? ht'
  exact List.mem_range.2 (List.getElem?_eq_some_iff.1 hc).1

theorem Traffic.exists_follow_rounds : ∀ (n : Nat) (t : Traffic),
    ∃ moves, t.follow? moves = some (Traffic.rounds n t)
  | 0, t => ⟨[], rfl⟩
  | n + 1, t => by
    unfold Traffic.rounds
    split
    · exact ⟨[], rfl⟩
    · obtain ⟨moves, hmoves, -⟩ := t.exists_follow_round
      obtain ⟨more, hmore⟩ := Traffic.exists_follow_rounds n t.round
      exact ⟨moves ++ more, by rw [Traffic.follow?_append, hmoves, Option.bind_some, hmore]⟩

theorem Traffic.exists_follow_run (t : Traffic) : ∃ moves, t.follow? moves = some t.run :=
  Traffic.exists_follow_rounds _ t

theorem Traffic.isOver_rounds : ∀ (n : Nat) (t : Traffic), t.remaining ≤ n →
    (Traffic.rounds n t).isOver = true
  | 0, t, h => Traffic.isOver_of_remaining (Nat.le_zero.1 h)
  | n + 1, t, h => by
    unfold Traffic.rounds
    split
    · assumption
    · rename_i hover
      obtain ⟨moves, hmoves, hne⟩ := t.exists_follow_round
      have hle := Traffic.remaining_add_length_le hmoves
      have hpos := List.length_pos_iff.2 (hne (by simpa using hover))
      exact Traffic.isOver_rounds n t.round (by omega)

/-- **Taking turns ends with all calls over.** -/
theorem Traffic.isOver_run (t : Traffic) : t.run.isOver = true :=
  Traffic.isOver_rounds _ t (Call.totalRemaining_le t.calls)

end Booking
