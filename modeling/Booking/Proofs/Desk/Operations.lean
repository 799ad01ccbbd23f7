import Booking.Proofs.Desk.Limit
/-!
# Operations

What a host may ask of a desk: to register groups, resources and rules, to enter reservations that
it already holds, and to take bids. A run of operations changes the ledger and nothing else
(`Desk.exists_changed_performAll`). Whatever has been done before, a bid that is taken leaves no limit
of its group passed, and takes up one of each limit that counts it
(`Desk.used_le_limit_of_reserve`), although entered reservations, late rules and late resources may
have passed the limits before.
-/
namespace Booking

inductive Desk.Operation where
  | addGroup (group : Group)
  | addResource (group resource : Ident)
  | addRule (rule : Rule)
  /-- Enters a reservation that the host already holds, without any check. -/
  | enter (r : Reservation)
  | reserve (b : Bid)

/-- What is wrong with the operation, if anything, and the desk after it. -/
def Desk.perform (d : Desk) : Desk.Operation → Option Refusal × Desk
  | .addGroup group => (none, d.apply (.group group))
  | .addResource g resource =>
    match d.addResource g resource with
    | .error refusal => (some refusal, d)
    | .ok d' => (none, d')
  | .addRule rule => (none, d.apply (.rule rule))
  | .enter r => (none, d.apply (.reservation r))
  | .reserve b => d.answer b

/-- The desk after the operations. -/
def Desk.performAll (d : Desk) (ops : List Desk.Operation) : Desk :=
  ops.foldl (fun d op => (d.perform op).2) d

theorem Desk.perform_addResource (d : Desk) (g resource : Ident) :
    d.perform (.addResource g resource) =
      if (d.ledger.group? g).isSome then (none, d.apply (.resource g resource))
      else (some (.unknownGroup g), d) := by
  simp only [Desk.perform, Desk.addResource]
  by_cases h : (d.ledger.group? g).isSome
  · rw [if_pos h, if_pos h]
    rfl
  · rw [if_neg h, if_neg h]

/-- **An operation that fails changes nothing; any other changes the ledger** by at most one change. -/
theorem Desk.exists_changed_perform (d : Desk) (op : Desk.Operation) :
    ∃ cs, (d.perform op).2 = d.changed cs ∧ ((d.perform op).1.isSome → cs = []) := by
  cases op with
  | addGroup group => exact ⟨[.group group], rfl, nofun⟩
  | addResource g resource =>
    rw [Desk.perform_addResource]
    split
    · exact ⟨[.resource g resource], rfl, nofun⟩
    · exact ⟨[], rfl, fun _ => rfl⟩
  | addRule rule => exact ⟨[.rule rule], rfl, nofun⟩
  | enter r => exact ⟨[.reservation r], rfl, nofun⟩
  | reserve b =>
    show ∃ cs, (d.answer b).2 = d.changed cs ∧ ((d.answer b).1.isSome → cs = [])
    rcases d.answer_cases b with ⟨refusal, -, ha⟩ | ⟨-, ha⟩ <;> rw [ha]
    · exact ⟨[], rfl, fun _ => rfl⟩
    · exact ⟨[.reservation b.reservation], rfl, nofun⟩

theorem Desk.exists_changed_performAll (d : Desk) (ops : List Desk.Operation) :
    ∃ cs, d.performAll ops = d.changed cs := by
  refine List.foldlRecOn (motive := fun d' => ∃ cs, d' = d.changed cs) ops _ ⟨[], rfl⟩ ?_
  rintro d' ⟨cs, rfl⟩ op -
  obtain ⟨cs', hcs', -⟩ := (d.changed cs).exists_changed_perform op
  exact ⟨cs ++ cs', by rw [hcs', Desk.changed_append]⟩

theorem Desk.isIndexed_performAll {d : Desk} (h : d.ledger.IsIndexed) (ops : List Desk.Operation) :
    (d.performAll ops).ledger.IsIndexed := by
  obtain ⟨cs, hcs⟩ := d.exists_changed_performAll ops
  rw [hcs]
  exact Desk.isIndexed_changed h cs

/-- **A bid that is taken leaves no limit of its group passed.** Start with any ledger and do any
operations. If a bid is taken then, no rule of its group counts more of the user's entries in the
group than it allows, and each rule counts one more than before if it counts the new entry, and
otherwise as many. -/
theorem Desk.used_le_limit_of_reserve (cs : List Ledger.Change) (maxSpan : Int)
    (ops : List Desk.Operation) (b : Bid) :
    let d := Desk.performAll { ledger := Ledger.ofChanges cs, maxSpan } ops
    let d' := (d.perform (.reserve b)).2
    (d.perform (.reserve b)).1 = none →
      ∀ rule ∈ d'.ledger.rulesFor b.group,
        let used (l : Ledger) := l.log.toList.countP (l.countsIn rule b.reservation.user b.group)
        used d'.ledger ≤ rule.limit ∧
          used d'.ledger = used d.ledger + if rule.counts b.reservation = true then 1 else 0 := by
  intro d d' ht rule hrule used
  have hd : d.ledger.IsIndexed := Desk.isIndexed_performAll (Ledger.isIndexed_ofChanges cs) ops
  have hd' : d'.ledger.IsIndexed := Desk.isIndexed_answer hd b
  have hused {l : Ledger} (h : l.IsIndexed) :
      used l = l.used rule b.reservation.user b.group :=
    (Ledger.used_eq_countP h rule b.reservation.user b.group).symm
  have hstep : used d'.ledger =
      used d.ledger + if rule.counts b.reservation = true then 1 else 0 := by
    rw [hused hd', hused hd]
    exact Desk.used_answer_of_taken hd ht rule
  have hroom : used d.ledger < rule.limit := by
    rw [hused hd]
    exact ((Desk.of_taken hd ht).2 rule (d.rulesFor_answer b b.group ▸ hrule)).2
  refine ⟨?_, hstep⟩
  rw [hstep]
  split <;> omega

/-- A second rule comes late, and so does a resource on which the user has an entry. No rule counts
what is entered for the user. -/
def Desk.late : Desk :=
  Desk.performAll { ledger := Ledger.ofChanges Ledger.parking }
    [.enter (Bid.late (.ofNat 4)).reservation,
      .addRule { Rule.oneNight with id := .ofNat 9, limit := 3 },
      .enter { (Bid.night (.ofNat 4)).reservation with resource := .ofNat 7, stop := 1672992000000 },
      .addResource (.ofNat 8) (.ofNat 7), .addResource (.ofNat 1) (.ofNat 7),
      .enter (Bid.night (.ofNat 6)).reservation]

theorem Desk.used_le_limit_of_reserve_late :
    ∃ b, b = Bid.night (.ofNat 4) ∧
      let d' := (Desk.late.perform (.reserve b)).2
      let used (l : Ledger) := l.log.toList.countP (l.countsIn .oneNight b.reservation.user b.group)
      (Desk.late.perform (.reserve b)).1 = none ∧ Rule.oneNight ∈ d'.ledger.rulesFor b.group ∧
        used Desk.late.ledger = 0 ∧ used d'.ledger = 1 := by
  obtain ⟨b, hb⟩ : ∃ b, b = Bid.night (.ofNat 4) := ⟨_, rfl⟩
  have ht : (Desk.late.perform (.reserve b)).1 = none := by
    rw [hb]
    decide +kernel
  have hrule : Rule.oneNight ∈ (Desk.late.perform (.reserve b)).2.ledger.rulesFor b.group := by
    show Rule.oneNight ∈ (Desk.late.answer b).2.ledger.rulesFor b.group
    rw [Desk.rulesFor_answer, hb]
    exact List.mem_cons.2 (.inl rfl)
  have hnone : Desk.late.ledger.log.toList.countP
      (Desk.late.ledger.countsIn .oneNight b.reservation.user b.group) = 0 := by
    rw [hb]
    decide +kernel
  have hcounts : Rule.oneNight.counts b.reservation = true := by
    rw [hb]
    decide +kernel
  have hstep := (Desk.used_le_limit_of_reserve Ledger.parking Desk.widestSpan _ b ht .oneNight
    hrule).2
  rw [if_pos hcounts] at hstep
  exact ⟨b, hb, ht, hrule, hnone, hstep.trans (congrArg (· + 1) hnone)⟩

end Booking
