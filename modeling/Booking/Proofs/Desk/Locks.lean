import Booking.Desk.Traffic
/-!
# Locks

What the steps of calls keep, in whatever order they are taken: a call's handle is to the lock that
the table has for its user, although entries are removed and made anew around it, and no lock is
held by two calls. So at most one call of each user is between acquiring and releasing a lock
(`Traffic.IsLocked.eq_of_held`).
-/
namespace Booking

/-- The traffic after the named calls have moved one step each, in this order; `none` if one of
them cannot move when its turn comes. -/
def Traffic.follow? (t : Traffic) : List Nat → Option Traffic
  | [] => some t
  | i :: is => (t.step? i).bind (fun t => t.follow? is)

/-- What call `i`, which is `c`, can do in one step. -/
inductive Traffic.Step (t : Traffic) (i : Nat) (c : Call) : Traffic → Prop where
  | refuse (refusal : Refusal) (hp : c.phase = .arrived)
      (h : Desk.spanRefusal? t.desk.maxSpan c.reservation.start c.reservation.stop = some refusal) :
      Step t i c (t.move i (.finished (some refusal)))
  | check (hp : c.phase = .arrived)
      (h : Desk.spanRefusal? t.desk.maxSpan c.reservation.start c.reservation.stop = none) :
      Step t i c (t.move i .checked)
  | take (hp : c.phase = .checked) : Step t i c (t.takeHandle i c.user)
  | acquire (lock : Nat) (hp : c.phase = .waiting lock) (h : t.isHeld lock = false) :
      Step t i c (t.move i (.holding lock))
  | decide (lock : Nat) (hp : c.phase = .holding lock) :
      Step t i c (t.move i (.decided lock (t.desk.ledger.refusal? c.group c.reservation)))
  | discard (lock : Nat) (refusal : Refusal) (hp : c.phase = .decided lock (some refusal)) :
      Step t i c (t.move i (.settled lock (some refusal)))
  | enter (lock : Nat) (hp : c.phase = .decided lock none) :
      Step t i c
        { t.move i (.settled lock none) with desk := t.desk.apply (.reservation c.reservation) }
  | release (lock : Nat) (refusal : Option Refusal) (hp : c.phase = .settled lock refusal) :
      Step t i c (t.move i (.released lock refusal))
  | drop (lock : Nat) (refusal : Option Refusal) (hp : c.phase = .released lock refusal) :
      Step t i c (t.move i (.leaving refusal))
  | leave (refusal : Option Refusal) (hp : c.phase = .leaving refusal) :
      Step t i c ((t.move i (.finished refusal)).sweep c.user)

theorem Traffic.step_of_step? {t t' : Traffic} {i : Nat} (h : t.step? i = some t') :
    ∃ c, t.calls[i]? = some c ∧ t.Step i c t' := by
  unfold Traffic.step? at h
  cases hc : t.calls[i]? with
  | none => rw [hc] at h; cases h
  | some c =>
    refine ⟨c, rfl, ?_⟩
    rw [hc] at h
    simp only at h
    split at h <;> rename_i hp
    · split at h <;> rename_i hs <;> cases h
      · exact .refuse _ hp hs
      · exact .check hp hs
    · cases h; exact .take hp
    · split at h <;> rename_i hh <;> cases h
      exact .acquire _ hp (by simpa using hh)
    · cases h; exact .decide _ hp
    · cases h; exact .discard _ _ hp
    · cases h; exact .enter _ hp
    · cases h; exact .release _ _ hp
    · cases h; exact .drop _ _ hp
    · cases h; exact .leave _ hp
    · cases h
    · cases h

/-! ## The calls after a move -/

theorem Traffic.getElem?_move (t : Traffic) (i : Nat) (phase : Call.Phase) (j : Nat) :
    (t.move i phase).calls[j]? =
      if i = j then t.calls[j]?.map (fun c => { c with phase }) else t.calls[j]? := by
  simp only [Traffic.move, List.getElem?_modify]
  split <;> simp

theorem Traffic.calls_move_cases {t : Traffic} {i j : Nat} {phase : Call.Phase} {c c' : Call}
    (hc : t.calls[i]? = some c) (h : (t.move i phase).calls[j]? = some c') :
    (j = i ∧ c' = { c with phase }) ∨ (j ≠ i ∧ t.calls[j]? = some c') := by
  rw [Traffic.getElem?_move] at h
  by_cases hij : i = j
  · subst hij
    rw [if_pos rfl, hc] at h
    exact Or.inl ⟨rfl, by simpa using h.symm⟩
  · rw [if_neg hij] at h
    exact Or.inr ⟨Ne.symm hij, h⟩

theorem Traffic.isHeld_eq_false_iff (t : Traffic) (lock : Nat) :
    t.isHeld lock = false ↔
      ∀ (j : Nat) (c : Call), t.calls[j]? = some c → c.phase.held? ≠ some lock := by
  simp only [Traffic.isHeld, List.any_eq_false, List.mem_iff_getElem?]
  constructor
  · intro h j c hj hheld
    exact h c ⟨j, hj⟩ (by simp [hheld])
  · rintro h c ⟨j, hj⟩
    simpa using h j c hj

/-- The table has a lock for the user afterwards, the one it had before if there was one, and the
call waits for it. -/
theorem Traffic.takeHandle_spec (t : Traffic) (i : Nat) (user : Ident) :
    ∃ lock, (t.takeHandle i user).calls = (t.move i (.waiting lock)).calls ∧
      (t.takeHandle i user).desk = t.desk ∧
      (t.takeHandle i user).table.get? user = some lock ∧
      (∀ lock', t.table.get? user = some lock' → lock = lock') ∧
      ∀ v, v ≠ user → (t.takeHandle i user).table.get? v = t.table.get? v := by
  unfold Traffic.takeHandle
  cases hl : t.table.get? user with
  | some lock => exact ⟨lock, rfl, rfl, hl, fun lock' h => by cases h; rfl, fun v _ => rfl⟩
  | none =>
    refine ⟨t.nextLock, rfl, rfl, ?_, ?_, ?_⟩
    · simp [Register.get?_alter]
    · intro lock' h
      cases h
    · intro v hv
      simp [Register.get?_alter, hv]

/-- The sweep leaves alone what some call has a handle to. -/
theorem Traffic.get?_sweep_of_handle {t : Traffic} {user v : Ident} {lock j : Nat} {c : Call}
    (hl : t.table.get? v = some lock) (hj : t.calls[j]? = some c)
    (hh : c.phase.handle? = some lock) : (t.sweep user).table.get? v = some lock := by
  have hhandle : t.hasHandle lock = true :=
    List.any_eq_true.2 ⟨c, List.mem_of_getElem? hj, by simp [hh]⟩
  simp only [Traffic.sweep, Register.get?_alter]
  split
  · rename_i hv
    subst hv
    simp [hl, hhandle]
  · exact hl

theorem Call.Phase.handle?_of_held? {p : Call.Phase} {lock : Nat} (h : p.held? = some lock) :
    p.handle? = some lock := by
  cases p <;> first | exact h | cases h

/-! ## The invariant -/

/-- **The locks are in order**: every handle is to the lock in the table, and no two calls hold one
lock. -/
structure Traffic.IsLocked (t : Traffic) : Prop where
  current : ∀ (j : Nat) (c : Call) (lock : Nat), t.calls[j]? = some c →
    c.phase.handle? = some lock → t.table.get? c.user = some lock
  exclusive : ∀ (i j : Nat) (c c' : Call) (lock : Nat), t.calls[i]? = some c →
    t.calls[j]? = some c' → c.phase.held? = some lock → c'.phase.held? = some lock → i = j

theorem Traffic.IsLocked.eq_of_held {t : Traffic} (h : t.IsLocked) {i j : Nat} {c c' : Call}
    (hi : t.calls[i]? = some c) (hj : t.calls[j]? = some c') (hu : c.user = c'.user)
    (hc : c.phase.held?.isSome) (hc' : c'.phase.held?.isSome) : i = j := by
  obtain ⟨lock, hlock⟩ := Option.isSome_iff_exists.1 hc
  obtain ⟨lock', hlock'⟩ := Option.isSome_iff_exists.1 hc'
  have h1 := h.current i c lock hi (Call.Phase.handle?_of_held? hlock)
  have h2 := h.current j c' lock' hj (Call.Phase.handle?_of_held? hlock')
  rw [hu, h2] at h1
  cases h1
  exact h.exclusive i j c c' lock hi hj hlock hlock'

/-- A move keeps the locks in order if the new phase has no other handle than the old one, and
holds no lock that another call holds. -/
theorem Traffic.IsLocked.move {t : Traffic} (h : t.IsLocked) {i : Nat} {c : Call}
    {phase : Call.Phase} (hc : t.calls[i]? = some c)
    (hhandle : ∀ lock, phase.handle? = some lock → c.phase.handle? = some lock)
    (hheld : ∀ lock, phase.held? = some lock →
      c.phase.held? = some lock ∨ t.isHeld lock = false) : (t.move i phase).IsLocked where
  current j c' lock hj hh := by
    rcases Traffic.calls_move_cases hc hj with ⟨-, rfl⟩ | ⟨-, hj⟩
    · exact h.current i c lock hc (hhandle lock hh)
    · exact h.current j c' lock hj hh
  exclusive j k a b lock hj hk ha hb := by
    have hother : ∀ (m : Nat) (d : Call), m ≠ i → t.calls[m]? = some d →
        d.phase.held? = some lock → phase.held? = some lock → m = i := by
      intro m d _ hm hd hphase
      rcases hheld lock hphase with hold | hfree
      · exact h.exclusive m i d c lock hm hc hd hold
      · exact absurd hd ((t.isHeld_eq_false_iff lock).1 hfree m d hm)
    rcases Traffic.calls_move_cases hc hj with ⟨rfl, rfl⟩ | ⟨hji, hj'⟩
    · rcases Traffic.calls_move_cases hc hk with ⟨rfl, rfl⟩ | ⟨hki, hk'⟩
      · rfl
      · exact (hother k b hki hk' hb ha).symm
    · rcases Traffic.calls_move_cases hc hk with ⟨rfl, rfl⟩ | ⟨hki, hk'⟩
      · exact hother j a hji hj' ha hb
      · exact h.exclusive j k a b lock hj' hk' ha hb

theorem Traffic.IsLocked.takeHandle {t : Traffic} (h : t.IsLocked) {i : Nat} {c : Call}
    (hc : t.calls[i]? = some c) : (t.takeHandle i c.user).IsLocked := by
  obtain ⟨lock, hcalls, -, htable, hsame, hother⟩ := t.takeHandle_spec i c.user
  refine ⟨fun j c' lock' hj hh => ?_, fun j k a b lock' hj hk ha hb => ?_⟩
  · rw [hcalls] at hj
    rcases Traffic.calls_move_cases hc hj with ⟨-, rfl⟩ | ⟨-, hj⟩
    · cases hh; exact htable
    · -- a handle that another call of the user has is to the lock that was there before
      have hold := h.current j c' lock' hj hh
      by_cases hu : c'.user = c.user
      · rw [hu] at hold ⊢
        rw [htable, hsame lock' hold]
      · rw [hother _ hu, hold]
  · rw [hcalls] at hj hk
    rcases Traffic.calls_move_cases hc hj with ⟨-, rfl⟩ | ⟨-, hj⟩
    · cases ha
    · rcases Traffic.calls_move_cases hc hk with ⟨-, rfl⟩ | ⟨-, hk⟩
      · cases hb
      · exact h.exclusive j k a b lock' hj hk ha hb

theorem Traffic.IsLocked.sweep {t : Traffic} (h : t.IsLocked) (user : Ident) :
    (t.sweep user).IsLocked where
  current j c lock hj hh := Traffic.get?_sweep_of_handle (h.current j c lock hj hh) hj hh
  exclusive := h.exclusive

/-- **Every step keeps the locks in order.** -/
theorem Traffic.IsLocked.step {t t' : Traffic} {i : Nat} {c : Call} (h : t.IsLocked)
    (hc : t.calls[i]? = some c) (hstep : t.Step i c t') : t'.IsLocked := by
  cases hstep with
  | refuse _ _ _ => exact h.move hc (fun _ hh => by cases hh) (fun _ hh => by cases hh)
  | check _ _ => exact h.move hc (fun _ hh => by cases hh) (fun _ hh => by cases hh)
  | take _ => exact h.takeHandle hc
  | acquire lock hp hfree =>
    exact h.move hc (fun _ hh => by rw [hp]; exact hh) (fun _ hh => by cases hh; exact .inr hfree)
  | decide lock hp =>
    exact h.move hc (fun _ hh => by rw [hp]; exact hh) (fun _ hh => by rw [hp]; exact .inl hh)
  | discard lock refusal hp =>
    exact h.move hc (fun _ hh => by rw [hp]; exact hh) (fun _ hh => by rw [hp]; exact .inl hh)
  | enter lock hp =>
    have hmove : (t.move i (.settled lock none)).IsLocked :=
      h.move hc (fun _ hh => by rw [hp]; exact hh) (fun _ hh => by rw [hp]; exact .inl hh)
    exact ⟨hmove.current, hmove.exclusive⟩
  | release lock refusal hp =>
    exact h.move hc (fun _ hh => by rw [hp]; exact hh) (fun _ hh => by cases hh)
  | drop _ _ _ => exact h.move hc (fun _ hh => by cases hh) (fun _ hh => by cases hh)
  | leave _ _ =>
    exact (h.move hc (fun _ hh => by cases hh) (fun _ hh => by cases hh)).sweep c.user

theorem Traffic.IsLocked.follow : ∀ (moves : List Nat) {t t' : Traffic}, t.IsLocked →
    t.follow? moves = some t' → t'.IsLocked
  | [], _, _, h, ht => by
    cases ht
    exact h
  | i :: moves, t, t', h, ht => by
    obtain ⟨t₁, h₁, ht₁⟩ := Option.bind_eq_some_iff.1 ht
    obtain ⟨c, hc, hstep⟩ := Traffic.step_of_step? h₁
    exact Traffic.IsLocked.follow moves (h.step hc hstep) ht₁

/-- Whatever the table, before the first step no call has anything. -/
theorem Traffic.isLocked_of_arrived {t : Traffic} (h : ∀ c ∈ t.calls, c.phase = .arrived) :
    t.IsLocked where
  current j c lock hj hh := by
    rw [h c (List.mem_of_getElem? hj)] at hh
    cases hh
  exclusive i j c c' lock hi _ hh _ := by
    rw [h c (List.mem_of_getElem? hi)] at hh
    cases hh

end Booking
