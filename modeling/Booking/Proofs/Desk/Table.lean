import Booking.Proofs.Desk.Booked
/-!
# The table of locks

Every handle is to the lock that the table has for the user of the call, whatever happens in between.
A call that goes its way to the end takes its user's lock out of the table again, unless another call
has a handle to it. A call that is abandoned takes nothing out. So once no call of a user is in flight,
the table has a lock for the user exactly if the last of the user's calls to be over was abandoned
(`Traffic.table_has_locks_in_use`): such a lock stays behind until the next call of the user goes its way
(`Traffic.exists_lock_left_behind`).
-/
namespace Booking

/-- How a call that took a handle came to its end. -/
inductive Traffic.Exit where
  | finished (user : Ident)
  | abandoned (user : Ident)
deriving DecidableEq, Repr

def Traffic.Exit.user : Traffic.Exit → Ident
  | .finished user | .abandoned user => user

def Call.Phase.isLeaving : Call.Phase → Bool
  | .leaving _ => true
  | _ => false

/-- Whether the call has taken a handle and is not over. -/
def Call.Phase.isInside : Call.Phase → Bool
  | .arrived | .checked | .finished _ | .abandoned => false
  | _ => true

/-- The exit that happens with the event. -/
def Traffic.exit? (t : Traffic) : Traffic.Event → Option Traffic.Exit
  | .step i => (t.calls[i]?.filter (fun c => c.phase.isLeaving)).map (fun c => .finished c.user)
  | .abandon i => (t.calls[i]?.filter (fun c => c.phase.isWaiting)).map (fun c => .abandoned c.user)
  | .change _ | .call _ => none

/-- The exits that happen with the events, in their order. -/
def Traffic.exits (t : Traffic) : List Traffic.Event → List Traffic.Exit
  | [] => []
  | e :: es => (t.exit? e).toList ++ (t.happen e).exits es

/-- The last of the exits that is one of the user's calls. -/
def Traffic.lastExit? (xs : List Traffic.Exit) (user : Ident) : Option Traffic.Exit :=
  (xs.filter (fun x => x.user == user)).getLast?

def Traffic.isInFlight (t : Traffic) (user : Ident) : Bool :=
  t.calls.any (fun c => c.user == user && !c.phase.isOver)

/-- Some call of the user is between taking its handle and its end. -/
def Traffic.IsUsed (t : Traffic) (user : Ident) : Prop :=
  ∃ (i : Nat) (c : Call), t.calls[i]? = some c ∧ c.user = user ∧ c.phase.isInside = true

theorem Traffic.lastExit?_concat_self (xs : List Traffic.Exit) (x : Traffic.Exit) :
    Traffic.lastExit? (xs ++ [x]) x.user = some x := by
  rw [Traffic.lastExit?, List.filter_append, List.filter_cons_of_pos (by simp), List.filter_nil,
    List.getLast?_concat]

theorem Traffic.lastExit?_concat_of_ne (xs : List Traffic.Exit) {x : Traffic.Exit} {user : Ident}
    (h : x.user ≠ user) : Traffic.lastExit? (xs ++ [x]) user = Traffic.lastExit? xs user := by
  rw [Traffic.lastExit?, List.filter_append, List.filter_cons_of_neg (by simp [h]), List.filter_nil,
    List.append_nil, Traffic.lastExit?]

theorem Call.Phase.isInside_of_handle? {p : Call.Phase} {lock : Nat} (h : p.handle? = some lock) :
    p.isInside = true := by
  cases p <;> first | rfl | cases h

theorem Call.Phase.exists_handle?_of_isWaiting {p : Call.Phase} (h : p.isWaiting = true) :
    ∃ lock, p.handle? = some lock := by
  cases p <;> first | exact ⟨_, rfl⟩ | cases h

theorem Call.Phase.isOver_of_isInside {p : Call.Phase} (h : p.isInside = true) :
    p.isOver = false := by
  cases p <;> first | rfl | cases h

section

variable {t t' : Traffic} {i : Nat} {c : Call} {phase : Call.Phase} {user : Ident}

theorem Traffic.IsUsed.isInFlight (h : t.IsUsed user) : t.isInFlight user = true := by
  obtain ⟨i, c, hc, hu, hinside⟩ := h
  refine List.any_eq_true.2 ⟨c, List.mem_of_getElem? hc, ?_⟩
  rw [hu, Call.Phase.isOver_of_isInside hinside, beq_self_eq_true]
  rfl

theorem Traffic.isUsed_of_move (hc : t.calls[i]? = some c)
    (hcalls : t'.calls = (t.move i phase).calls) (hphase : phase.isInside = true) :
    t'.IsUsed c.user := by
  refine ⟨i, { c with phase }, ?_, rfl, hphase⟩
  rw [hcalls, Traffic.getElem?_move, if_pos rfl, hc, Option.map_some]

/-- A move of a call takes it out of use only if it leaves that part of its way. -/
theorem Traffic.IsUsed.move (h : t.IsUsed user) (hc : t.calls[i]? = some c)
    (hcalls : t'.calls = (t.move i phase).calls)
    (hphase : c.user = user → c.phase.isInside = true → phase.isInside = true) :
    t'.IsUsed user := by
  obtain ⟨j, c', hj, hu, hinside⟩ := h
  by_cases hij : i = j
  · subst hij
    rw [hc] at hj
    cases hj
    exact hu ▸ Traffic.isUsed_of_move hc hcalls (hphase hu hinside)
  · refine ⟨j, c', ?_, hu, hinside⟩
    rw [hcalls, Traffic.getElem?_move, if_neg hij, hj]

/-- What is in the table after a sweep was there before, and the lock that was looked at is one that
some call has a handle to. -/
theorem Traffic.get?_of_sweep {v : Ident} {lock : Nat}
    (h : (t.sweep user).table.get? v = some lock) :
    t.table.get? v = some lock ∧ (v = user → t.hasHandle lock = true) := by
  simp only [Traffic.sweep, Register.get?_alter] at h
  by_cases hv : v = user
  · subst hv
    rw [if_pos rfl, Option.filter_eq_some_iff] at h
    exact ⟨h.1, fun _ => h.2⟩
  · rw [if_neg hv] at h
    exact ⟨h, fun hu => absurd hu hv⟩

theorem Traffic.get?_sweep_of_ne {v : Ident} (hv : v ≠ user) :
    (t.sweep user).table.get? v = t.table.get? v := by
  simp only [Traffic.sweep, Register.get?_alter, if_neg hv]

theorem Traffic.exists_of_hasHandle {lock : Nat} (h : t.hasHandle lock = true) :
    ∃ (j : Nat) (c : Call), t.calls[j]? = some c ∧ c.phase.handle? = some lock := by
  obtain ⟨c, hmem, hc⟩ := List.any_eq_true.1 h
  obtain ⟨j, hj⟩ := List.mem_iff_getElem?.1 hmem
  exact ⟨j, c, hj, beq_iff_eq.1 hc⟩

theorem Traffic.takeHandle_of_some {lock : Nat} (h : t.table.get? user = some lock) :
    t.takeHandle i user = t.move i (.waiting lock) := by
  rw [Traffic.takeHandle, h]

theorem Traffic.takeHandle_of_none (h : t.table.get? user = none) :
    t.takeHandle i user =
      { t.move i (.waiting t.nextLock) with
        table := t.table.alter user (fun _ => some t.nextLock)
        nextLock := t.nextLock + 1 } := by
  rw [Traffic.takeHandle, h]

theorem Traffic.get?_takeHandle_of_none (h : t.table.get? user = none) (v : Ident) :
    (t.takeHandle i user).table.get? v =
      if v = user then some t.nextLock else t.table.get? v := by
  rw [Traffic.takeHandle_of_none h]
  exact Register.get?_alter _ _ _ _

theorem Traffic.get?_takeHandle_cases {v : Ident} {lock : Nat} (h : t.table.get? user = none)
    (hv : (t.takeHandle i user).table.get? v = some lock) :
    v = user ∧ lock = t.nextLock ∨ t.table.get? v = some lock := by
  rw [Traffic.get?_takeHandle_of_none h] at hv
  split at hv
  · rename_i huser
    cases hv
    exact .inl ⟨huser, rfl⟩
  · exact .inr hv

/-! ## Exits -/

theorem Traffic.exit?_step (hc : t.calls[i]? = some c) :
    t.exit? (.step i) = if c.phase.isLeaving then some (.finished c.user) else none := by
  rw [Traffic.exit?, hc]
  cases h : c.phase.isLeaving <;> simp [h]

theorem Traffic.exit?_abandon (hc : t.calls[i]? = some c) :
    t.exit? (.abandon i) = if c.phase.isWaiting then some (.abandoned c.user) else none := by
  rw [Traffic.exit?, hc]
  cases h : c.phase.isWaiting <;> simp [h]

theorem Traffic.happen_abandon (hc : t.calls[i]? = some c) :
    t.happen (.abandon i) = if c.phase.isWaiting then t.move i .abandoned else t := by
  rw [Traffic.happen, Traffic.abandon?, hc]
  cases h : c.phase.isWaiting <;> simp [h]

theorem Traffic.exit?_step_of_none (h : t.step? i = none) : t.exit? (.step i) = none := by
  cases hc : t.calls[i]? with
  | none => rw [Traffic.exit?, hc]; rfl
  | some c =>
    rw [Traffic.exit?_step hc]
    cases hp : c.phase with
    | leaving refusal => simp [Traffic.step?, hc, hp] at h
    | _ => rfl

end

/-! ## The invariant -/

/-- **The table is in order** after the exits: no lock belongs to two users, and each one is in use or
was left behind by the last of its user's calls to be over. -/
structure Traffic.IsKept (xs : List Traffic.Exit) (t : Traffic) : Prop where
  locked : t.IsLocked
  numbered : ∀ user lock, t.table.get? user = some lock → lock < t.nextLock
  distinct : ∀ user user' lock, t.table.get? user = some lock → t.table.get? user' = some lock →
    user = user'
  used : ∀ user lock, t.table.get? user = some lock →
    t.IsUsed user ∨ Traffic.lastExit? xs user = some (.abandoned user)
  left : ∀ user, Traffic.lastExit? xs user = some (.abandoned user) → (t.table.get? user).isSome

section

variable {xs : List Traffic.Exit} {t t' : Traffic} {i : Nat} {c : Call} {phase : Call.Phase}

/-- Moves before and after the taking of the handle, and on the way in between, leave the table as it
is. -/
theorem Traffic.IsKept.move (h : t.IsKept xs) (hc : t.calls[i]? = some c)
    (hcalls : t'.calls = (t.move i phase).calls) (htable : t'.table = t.table)
    (hnext : t'.nextLock = t.nextLock) (hlocked : t'.IsLocked)
    (hphase : c.phase.isInside = true → phase.isInside = true) : t'.IsKept xs where
  locked := hlocked
  numbered := by
    rw [htable, hnext]
    exact h.numbered
  distinct := by
    rw [htable]
    exact h.distinct
  used user lock hl := by
    rw [htable] at hl
    exact (h.used user lock hl).imp_left fun hused => hused.move hc hcalls fun _ => hphase
  left := by
    rw [htable]
    exact h.left

/-- A lock that is created is none of those in the table. -/
theorem Traffic.IsKept.createLock (h : t.IsKept xs) (hc : t.calls[i]? = some c)
    (hnone : t.table.get? c.user = none) : (t.takeHandle i c.user).IsKept xs := by
  have hnew : ∀ user, t.table.get? user ≠ some t.nextLock :=
    fun user hu => Nat.lt_irrefl _ (h.numbered user _ hu)
  refine ⟨h.locked.takeHandle hc, fun user lock hu => ?_, fun user user' lock hu hu' => ?_,
    fun user lock hu => ?_, fun user hleft => ?_⟩
  · rw [Traffic.takeHandle_of_none hnone]
    rcases Traffic.get?_takeHandle_cases hnone hu with ⟨-, rfl⟩ | hold
    · exact Nat.lt_succ_self _
    · exact Nat.lt_succ_of_lt (h.numbered user lock hold)
  · rcases Traffic.get?_takeHandle_cases hnone hu with ⟨rfl, rfl⟩ | hold <;>
      rcases Traffic.get?_takeHandle_cases hnone hu' with ⟨huser, hlock⟩ | hold'
    · exact huser.symm
    · exact absurd hold' (hnew user')
    · exact absurd (hlock ▸ hold) (hnew user)
    · exact h.distinct user user' lock hold hold'
  · have hcalls : (t.takeHandle i c.user).calls = (t.move i (.waiting t.nextLock)).calls := by
      rw [Traffic.takeHandle_of_none hnone]
    rcases Traffic.get?_takeHandle_cases hnone hu with ⟨rfl, -⟩ | hold
    · exact .inl (Traffic.isUsed_of_move hc hcalls rfl)
    · exact (h.used user lock hold).imp_left fun hused => hused.move hc hcalls fun _ _ => rfl
  · rw [Traffic.get?_takeHandle_of_none hnone]
    split
    · rfl
    · exact h.left user hleft

theorem Traffic.IsKept.takeHandle (h : t.IsKept xs) (hc : t.calls[i]? = some c) :
    (t.takeHandle i c.user).IsKept xs := by
  have hlocked := h.locked.takeHandle hc
  cases hl : t.table.get? c.user with
  | none => exact h.createLock hc hl
  | some lock =>
    rw [Traffic.takeHandle_of_some hl] at hlocked ⊢
    exact h.move hc rfl rfl rfl hlocked fun _ => rfl

/-- A call that leaves takes its user's lock out of the table, or another call has a handle to it. -/
theorem Traffic.IsKept.leave (h : t.IsKept xs) (hc : t.calls[i]? = some c)
    (refusal : Option Refusal) (hlocked : (t.move i (.finished refusal)).IsLocked) :
    ((t.move i (.finished refusal)).sweep c.user).IsKept (xs ++ [.finished c.user]) := by
  refine ⟨hlocked.sweep c.user, fun user lock hu => ?_, fun user user' lock hu hu' => ?_,
    fun user lock hu => ?_, fun user hleft => ?_⟩
  · exact h.numbered user lock (Traffic.get?_of_sweep hu).1
  · exact h.distinct user user' lock (Traffic.get?_of_sweep hu).1 (Traffic.get?_of_sweep hu').1
  · obtain ⟨hold, hhandle⟩ := Traffic.get?_of_sweep hu
    by_cases huser : user = c.user
    · obtain ⟨j, c', hj, hlock⟩ := Traffic.exists_of_hasHandle (hhandle huser)
      have hcurrent := hlocked.current j c' lock hj hlock
      exact .inl ⟨j, c', hj, h.distinct c'.user user lock hcurrent hold,
        Call.Phase.isInside_of_handle? hlock⟩
    · rw [Traffic.lastExit?_concat_of_ne xs (Ne.symm huser)]
      exact (h.used user lock hold).imp_left fun hused =>
        hused.move hc rfl fun hu => absurd hu.symm huser
  · by_cases huser : user = c.user
    · subst huser
      cases (Traffic.lastExit?_concat_self xs (.finished c.user)).symm.trans hleft
    · rw [Traffic.lastExit?_concat_of_ne xs (Ne.symm huser)] at hleft
      rw [Traffic.get?_sweep_of_ne huser]
      exact h.left user hleft

/-- A call that is abandoned leaves its user's lock behind. -/
theorem Traffic.IsKept.abandon (h : t.IsKept xs) (hc : t.calls[i]? = some c)
    (hw : c.phase.isWaiting = true) :
    (t.move i .abandoned).IsKept (xs ++ [.abandoned c.user]) := by
  refine ⟨h.locked.move hc nofun nofun, h.numbered, h.distinct, fun user lock hu => ?_,
    fun user hleft => ?_⟩
  · by_cases huser : user = c.user
    · subst huser
      exact .inr (Traffic.lastExit?_concat_self xs (.abandoned c.user))
    · rw [Traffic.lastExit?_concat_of_ne xs (Ne.symm huser)]
      exact (h.used user lock hu).imp_left fun hused =>
        hused.move hc rfl fun hu => absurd hu.symm huser
  · by_cases huser : user = c.user
    · subst huser
      obtain ⟨lock, hlock⟩ := Call.Phase.exists_handle?_of_isWaiting hw
      exact Option.isSome_iff_exists.2 ⟨lock, h.locked.current i c lock hc hlock⟩
    · rw [Traffic.lastExit?_concat_of_ne xs (Ne.symm huser)] at hleft
      exact h.left user hleft

/-- **Every step keeps the table in order.** -/
theorem Traffic.IsKept.step (h : t.IsKept xs) (hc : t.calls[i]? = some c) (hstep : t.Step i c t') :
    t'.IsKept (xs ++ (t.exit? (.step i)).toList) := by
  have hlocked := h.locked.step hc hstep
  rw [Traffic.exit?_step hc]
  cases hstep with
  | leave refusal hp =>
    rw [hp]
    exact h.leave hc refusal (h.locked.move hc nofun nofun)
  | take hp =>
    rw [hp]
    exact (List.append_nil xs).symm ▸ h.takeHandle hc
  | refuse _ hp | check hp | acquire _ hp | decide _ hp | discard _ _ hp | enter _ hp
  | release _ _ hp | drop _ _ hp =>
    rw [hp]
    exact (List.append_nil xs).symm ▸
      h.move hc rfl rfl rfl hlocked (by rw [hp]; exact id)

theorem Traffic.IsKept.call (h : t.IsKept xs) (b : Bid) : (t.happen (.call b)).IsKept xs := by
  refine ⟨h.locked.call b, h.numbered, h.distinct, fun user lock hu => ?_, h.left⟩
  refine (h.used user lock hu).imp_left ?_
  rintro ⟨j, c, hj, hc⟩
  exact ⟨j, c, (List.getElem?_append_left (List.getElem?_eq_some_iff.1 hj).1).trans hj, hc⟩

theorem Traffic.IsKept.happen (h : t.IsKept xs) (e : Traffic.Event) :
    (t.happen e).IsKept (xs ++ (t.exit? e).toList) := by
  cases e with
  | change c =>
    rw [Traffic.exit?, Option.toList_none, List.append_nil]
    exact ⟨⟨h.locked.current, h.locked.exclusive⟩, h.numbered, h.distinct, h.used, h.left⟩
  | call b =>
    rw [Traffic.exit?, Option.toList_none, List.append_nil]
    exact h.call b
  | step i =>
    cases hs : t.step? i with
    | none =>
      rw [Traffic.happen, hs, Traffic.exit?_step_of_none hs, Option.toList_none, List.append_nil]
      exact h
    | some t' =>
      obtain ⟨c, hc, hstep⟩ := Traffic.step_of_step? hs
      rw [Traffic.happen, hs]
      exact h.step hc hstep
  | abandon i =>
    cases hc : t.calls[i]? with
    | none =>
      rw [Traffic.happen, Traffic.abandon?, Traffic.exit?, hc]
      exact (List.append_nil xs).symm ▸ h
    | some c =>
      rw [Traffic.happen_abandon hc, Traffic.exit?_abandon hc]
      cases hw : c.phase.isWaiting with
      | false => exact (List.append_nil xs).symm ▸ h
      | true => exact h.abandon hc hw

theorem Traffic.IsKept.after : ∀ (es : List Traffic.Event) {xs : List Traffic.Exit} {t : Traffic},
    t.IsKept xs → (t.after es).IsKept (xs ++ t.exits es)
  | [], xs, _, h => (List.append_nil xs).symm ▸ h
  | e :: es, xs, t, h => by
    rw [Traffic.exits, ← List.append_assoc]
    exact Traffic.IsKept.after es (h.happen e)

/-- Of a desk without calls nothing is in the table, and nobody has gone. -/
theorem Traffic.isKept_nil (d : Desk) : (Traffic.ofCalls d []).IsKept [] :=
  ⟨Traffic.isLocked_of_arrived nofun, nofun, nofun, nofun, nofun⟩

end

theorem Register.isEmpty_iff {α : Type} (r : Register α) :
    r.isEmpty = true ↔ ∀ i, r.get? i = none := by
  constructor
  · intro h i
    rw [Register.isEmpty, List.isEmpty_iff] at h
    rw [Register.get?, h]
    rfl
  · intro h
    rw [Register.isEmpty, List.isEmpty_iff]
    refine List.eq_nil_iff_forall_not_mem.2 fun e he => ?_
    have hnone := List.find?_eq_none.1 (Option.map_eq_none_iff.1 (h e.1)) e he
    exact hnone (beq_self_eq_true e.1)

theorem Traffic.isInFlight_of_isOver {t : Traffic} (h : t.isOver = true) (user : Ident) :
    t.isInFlight user = false := by
  refine List.any_eq_false.2 fun c hc => ?_
  rw [List.all_eq_true.1 h c hc]
  simp

/-- **The table has the locks that are in use, and those that abandoned calls left behind.** Let calls of
any users come, take their steps in any order and be abandoned whenever they wait, and let the ledger be
changed from elsewhere. Then all handles are to the lock that the table has for the user of the call. A
user has a lock in the table only while a call of the user is in flight, or if the last of the user's calls
to be over, among those that took a handle, was abandoned; and then the lock is there. So once no call is
in flight at all, the table is empty unless some user's last call to be over was abandoned. -/
theorem Traffic.table_has_locks_in_use (d : Desk) (es : List Traffic.Event) :
    let t := (Traffic.ofCalls d []).after es
    let exits := (Traffic.ofCalls d []).exits es
    (∀ c ∈ t.calls, ∀ lock, c.phase.handle? = some lock → t.table.get? c.user = some lock) ∧
    (∀ user, (t.table.get? user).isSome →
      t.isInFlight user = true ∨ Traffic.lastExit? exits user = some (.abandoned user)) ∧
    (∀ user, Traffic.lastExit? exits user = some (.abandoned user) → (t.table.get? user).isSome) ∧
    (t.isOver = true → (t.table.isEmpty = true ↔
      ∀ user, Traffic.lastExit? exits user ≠ some (.abandoned user))) := by
  intro t exits
  have hkept : t.IsKept exits := (Traffic.isKept_nil d).after es
  have hused : ∀ user, (t.table.get? user).isSome →
      t.isInFlight user = true ∨ Traffic.lastExit? exits user = some (.abandoned user) := by
    intro user hsome
    obtain ⟨lock, hlock⟩ := Option.isSome_iff_exists.1 hsome
    exact (hkept.used user lock hlock).imp_left Traffic.IsUsed.isInFlight
  refine ⟨fun c hc lock hh => ?_, hused, hkept.left, fun hover => ?_⟩
  · obtain ⟨j, hj⟩ := List.mem_iff_getElem?.1 hc
    exact hkept.locked.current j c lock hj hh
  · rw [Register.isEmpty_iff]
    refine forall_congr' fun user => ?_
    rw [← Option.not_isSome_iff_eq_none]
    refine not_congr ⟨fun hsome => ?_, hkept.left user⟩
    refine (hused user hsome).resolve_left ?_
    rw [Traffic.isInFlight_of_isOver hover user]
    exact Bool.false_ne_true

/-- Of the calls of two users for a night the first is abandoned while it holds its lock, and the second
goes its way. -/
def Traffic.abandonedNight : List Traffic.Event :=
  [.call (.night (.ofNat 4)), .call (.night (.ofNat 6)), .step 0, .step 0, .step 0, .step 1,
    .abandon 0] ++ List.replicate 7 (.step 1)

/-- The first user's lock stays behind until the next call of the user takes a handle to it and goes its
way. -/
theorem Traffic.table_has_locks_in_use_abandonedNight :
    let start := Traffic.ofCalls { ledger := Ledger.ofChanges Ledger.parking } []
    let waiting := Traffic.abandonedNight ++ [.call (.night (.ofNat 4)), .step 2, .step 2]
    let gone := waiting ++ List.replicate 6 (.step 2)
    ((start.after Traffic.abandonedNight).calls.map Call.phase = [.abandoned, .finished none] ∧
      ((start.after Traffic.abandonedNight).table.get? (.ofNat 4)).isSome) ∧
    ((start.after waiting).calls.map Call.phase = [.abandoned, .finished none, .waiting 0] ∧
      (start.after waiting).table.get? (.ofNat 4) = some 0) ∧
    (start.after gone).isOver = true ∧ (start.after gone).table.isEmpty = true := by
  intro start waiting gone
  obtain ⟨-, -, hleft, -⟩ := Traffic.table_has_locks_in_use
    { ledger := Ledger.ofChanges Ledger.parking } Traffic.abandonedNight
  obtain ⟨hhandle, -⟩ := Traffic.table_has_locks_in_use
    { ledger := Ledger.ofChanges Ledger.parking } waiting
  obtain ⟨-, -, -, hempty⟩ := Traffic.table_has_locks_in_use
    { ledger := Ledger.ofChanges Ledger.parking } gone
  have hover : (start.after gone).isOver = true := by decide +kernel
  refine ⟨⟨by decide +kernel, hleft (.ofNat 4) (by decide +kernel)⟩, ⟨by decide +kernel, ?_⟩, hover,
    (hempty hover).2 fun user => ?_⟩
  · exact hhandle { (Bid.night (.ofNat 4)).call with phase := .waiting 0 } (by decide +kernel) 0 rfl
  · have hexits : start.exits gone =
        [.abandoned (.ofNat 4), .finished (.ofNat 6), .finished (.ofNat 4)] := by decide +kernel
    rw [hexits]
    intro hlast
    have hmem := (List.mem_filter.1 (List.mem_of_getLast? hlast)).1
    have huser : user = .ofNat 4 := by simpa using hmem
    subst huser
    revert hlast
    decide

/-- **An abandoned call leaves its user's lock in the table** when no call is in flight any more. -/
theorem Traffic.exists_lock_left_behind :
    ¬ ∀ (d : Desk) (es : List Traffic.Event),
      let t := (Traffic.ofCalls d []).after es
      (∀ c ∈ t.calls, ∀ lock, c.phase.handle? = some lock → t.table.get? c.user = some lock) ∧
      (∀ user, (t.table.get? user).isSome → t.isInFlight user = true) ∧
      (t.isOver = true → t.table.isEmpty = true) := by
  intro h
  obtain ⟨-, hinFlight, -⟩ :=
    h { ledger := Ledger.ofChanges Ledger.parking } Traffic.abandonedNight
  exact absurd (hinFlight (.ofNat 4) (by decide +kernel)) (by decide +kernel)

end Booking
