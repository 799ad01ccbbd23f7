import Booking.Proofs.Desk.Operations
import Booking.Proofs.Desk.Serial
/-!
# Outcomes

What stands in the way of a bid may be several things at once: its span, its group, its resource, a
rule. Each of them is an obstacle whatever else is wrong, and the desk reports the one that ranks first
(`Desk.refusal?_eq_some_iff`). A refused bid leaves the desk as it was and a taken one only adds to the
log, whether the bid is answered at once or as a call that goes through its phases alone
(`Desk.reserve_reports_first_obstacle`).
-/
namespace Booking

/-! ## Desks -/

/-- The desks that a host can have: made for a ledger, given a widest span, and used. -/
inductive Desk.Reachable : Desk → Prop where
  | ofLedger (cs : List Ledger.Change) : Reachable (.ofLedger (Ledger.ofChanges cs))
  | withMaxSpan {d : Desk} (h : Reachable d) (ms : Int) : Reachable (d.withMaxSpan ms)
  | perform {d : Desk} (h : Reachable d) (op : Desk.Operation) : Reachable (d.perform op).2

theorem Desk.maxSpan_perform (d : Desk) (op : Desk.Operation) :
    (d.perform op).2.maxSpan = d.maxSpan := by
  obtain ⟨cs, hcs, -⟩ := d.exists_changed_perform op
  rw [hcs]
  rfl

/-- **No desk accepts more than the widest span**, whatever it was told to accept. -/
theorem Desk.Reachable.maxSpan_le {d : Desk} (h : d.Reachable) : d.maxSpan ≤ Desk.widestSpan := by
  induction h with
  | ofLedger cs => exact Int.le_refl _
  | withMaxSpan _ ms _ => exact Int.min_le_right _ _
  | perform _ op ih =>
    rw [Desk.maxSpan_perform]
    exact ih

theorem Desk.Reachable.isIndexed {d : Desk} (h : d.Reachable) : d.ledger.IsIndexed := by
  induction h with
  | ofLedger cs => exact Ledger.isIndexed_ofChanges cs
  | withMaxSpan _ _ ih => exact ih
  | perform _ op ih => exact Desk.isIndexed_performAll ih [op]

/-! ## Obstacles -/

/-- **What stands in the way of a bid**, each thing by itself, and the refusal that reports it. -/
inductive Desk.Obstacle (d : Desk) (b : Bid) : Refusal → Prop where
  | emptySpan (h : b.reservation.stop ≤ b.reservation.start) :
      Obstacle d b (.emptySpan b.reservation.start b.reservation.stop)
  | outOfLimits (h : b.reservation.start < Desk.earliest ∨ Desk.latest < b.reservation.stop) :
      Obstacle d b .outOfLimits
  | tooWide (h : d.maxSpan < b.reservation.stop - b.reservation.start) : Obstacle d b .tooWide
  | unknownGroup (h : d.ledger.group? b.group = none) : Obstacle d b (.unknownGroup b.group)
  | notInGroup {group : Group} (h : d.ledger.group? b.group = some group)
      (hresource : b.reservation.resource ∉ group.resources) :
      Obstacle d b (.notInGroup b.reservation.resource b.group)
  | rejected {rule : Ident}
      (h : d.ledger.admission b.reservation.user b.group b.reservation.start b.reservation.stop =
        .rejected rule) : Obstacle d b (.rejected rule)

/-- The place of a refusal in the order in which a desk looks for obstacles. -/
def Refusal.rank : Refusal → Nat
  | .emptySpan _ _ => 0
  | .outOfLimits => 1
  | .tooWide => 2
  | .unknownGroup _ => 3
  | .notInGroup _ _ => 4
  | .rejected _ => 5

/-- The obstacle is the first that a desk finds. -/
def Desk.IsFirstObstacle (d : Desk) (b : Bid) (refusal : Refusal) : Prop :=
  d.Obstacle b refusal ∧ ∀ other, d.Obstacle b other → refusal.rank ≤ other.rank

section

variable {d : Desk} {b : Bid} {refusal other : Refusal}

/-- There is at most one obstacle of each rank. -/
theorem Desk.Obstacle.eq_of_rank_eq (h : d.Obstacle b refusal) (h' : d.Obstacle b other)
    (hrank : refusal.rank = other.rank) : refusal = other := by
  cases h with
  | rejected h =>
    cases h' with
    | rejected h' =>
      rw [h] at h'
      cases h'
      rfl
    | _ => cases hrank
  | _ => cases h' <;> first | rfl | cases hrank

/-! What passes a check has no obstacle of its rank, and none of a lower one. -/

theorem Desk.Obstacle.le_rank_of_lt (h : d.Obstacle b other)
    (hlt : b.reservation.start < b.reservation.stop) : 1 ≤ other.rank := by
  cases h with
  | emptySpan h => exact absurd hlt (Int.not_lt.2 h)
  | _ => simp only [Refusal.rank, Nat.reduceLeDiff]

theorem Desk.Obstacle.le_rank_of_limits (h : d.Obstacle b other)
    (hlt : b.reservation.start < b.reservation.stop)
    (hlimits : Desk.isWithinLimits b.reservation.start b.reservation.stop = true) :
    2 ≤ other.rank := by
  have hrank := h.le_rank_of_lt hlt
  simp only [Desk.isWithinLimits, Bool.and_eq_true, decide_eq_true_eq] at hlimits
  cases h with
  | emptySpan => simp [Refusal.rank] at hrank
  | outOfLimits h => omega
  | _ => simp only [Refusal.rank, Nat.reduceLeDiff]

/-- An obstacle to a bid whose span is in order lies in the ledger. -/
theorem Desk.Obstacle.le_rank_of_span (h : d.Obstacle b other)
    (hspan : Desk.spanRefusal? d.maxSpan b.reservation.start b.reservation.stop = none) :
    3 ≤ other.rank := by
  obtain ⟨hlt, hearliest, hlatest, hwidth⟩ := (Desk.spanRefusal?_eq_none_iff _ _ _).1 hspan
  cases h with
  | emptySpan h => omega
  | outOfLimits h => omega
  | tooWide h => omega
  | _ => simp only [Refusal.rank, Nat.reduceLeDiff]

theorem Desk.Obstacle.le_rank_of_group (h : d.Obstacle b other)
    (hspan : Desk.spanRefusal? d.maxSpan b.reservation.start b.reservation.stop = none)
    (hgroup : d.ledger.group? b.group ≠ none) : 4 ≤ other.rank := by
  have hrank := h.le_rank_of_span hspan
  cases h with
  | unknownGroup h => exact absurd h hgroup
  | notInGroup | rejected => simp only [Refusal.rank, Nat.reduceLeDiff]
  | _ => simp [Refusal.rank] at hrank

theorem Desk.Obstacle.le_rank_of_lists (h : d.Obstacle b other)
    (hspan : Desk.spanRefusal? d.maxSpan b.reservation.start b.reservation.stop = none)
    (hlists : d.ledger.lists b.group b.reservation.resource = true) : 5 ≤ other.rank := by
  obtain ⟨group, hgroup, hresource⟩ := Ledger.lists_eq_true_iff.1 hlists
  have hrank := h.le_rank_of_group hspan (by simp [hgroup])
  cases h with
  | notInGroup h hnot =>
    rw [hgroup] at h
    cases h
    exact absurd hresource hnot
  | rejected => simp only [Refusal.rank, Nat.le_refl]
  | _ => simp [Refusal.rank] at hrank

/-- The first obstacle in the span. -/
theorem Desk.isFirstObstacle_of_span
    (hspan : Desk.spanRefusal? d.maxSpan b.reservation.start b.reservation.stop = some refusal) :
    d.IsFirstObstacle b refusal := by
  unfold Desk.spanRefusal? at hspan
  split at hspan
  · rename_i hempty
    cases hspan
    exact ⟨.emptySpan hempty, fun other _ => Nat.zero_le _⟩
  rename_i hempty
  have hlt := Int.not_le.1 hempty
  split at hspan
  · rename_i hlimits
    cases hspan
    simp only [Desk.isWithinLimits, Bool.not_eq_true', Bool.and_eq_false_iff,
      decide_eq_false_iff_not, Int.not_le] at hlimits
    exact ⟨.outOfLimits hlimits, fun other hother => hother.le_rank_of_lt hlt⟩
  rename_i hlimits
  split at hspan
  · rename_i hwide
    cases hspan
    exact ⟨.tooWide hwide, fun other hother => hother.le_rank_of_limits hlt (by simpa using hlimits)⟩
  · cases hspan

/-- The first obstacle in the ledger, where the span is in order. -/
theorem Desk.isFirstObstacle_of_ledger
    (hspan : Desk.spanRefusal? d.maxSpan b.reservation.start b.reservation.stop = none)
    (hledger : d.ledger.refusal? b.group b.reservation = some refusal) :
    d.IsFirstObstacle b refusal := by
  cases hgroup : d.ledger.group? b.group with
  | none =>
    rw [Ledger.refusal?, hgroup] at hledger
    cases hledger
    exact ⟨.unknownGroup hgroup, fun other hother => hother.le_rank_of_span hspan⟩
  | some group =>
    have hgroups : d.ledger.group? b.group ≠ none := by simp [hgroup]
    by_cases hresource : b.reservation.resource ∈ group.resources
    · have hlists := Ledger.lists_eq_true_iff.2 ⟨group, hgroup, hresource⟩
      rw [Ledger.refusal?_of_lists hlists] at hledger
      cases hadmission : d.ledger.admission b.reservation.user b.group b.reservation.start
        b.reservation.stop with
      | admitted => simp [hadmission, Admission.refusal?] at hledger
      | unknownGroup =>
        exact absurd ((Ledger.admission_eq_unknownGroup_iff _ _ _ _ _).1 hadmission) hgroups
      | rejected rule =>
        rw [hadmission] at hledger
        cases hledger
        exact ⟨.rejected hadmission, fun other hother => hother.le_rank_of_lists hspan hlists⟩
    · have hnot : group.resources.contains b.reservation.resource = false := by
        simpa using hresource
      simp only [Ledger.refusal?, hgroup, hnot, Bool.not_false, if_true] at hledger
      cases hledger
      exact ⟨.notInGroup hgroup hresource, fun other hother => hother.le_rank_of_group hspan hgroups⟩

/-- Nothing stands in the way of a bid that is not refused. -/
theorem Desk.not_obstacle_of_none (h : d.refusal? b.group b.reservation = none) :
    ¬ d.Obstacle b other := by
  intro hother
  obtain ⟨hspan, hledger⟩ := (d.refusal?_eq_none_iff _ _).1 h
  obtain ⟨hlists, hadmitted⟩ := (Ledger.refusal?_eq_none_iff _ _ _).1 hledger
  have hrank := hother.le_rank_of_lists hspan hlists
  cases hother with
  | rejected h => simp [hadmitted] at h
  | _ => simp [Refusal.rank] at hrank

/-- **What a desk refuses a bid for is the first of the obstacles.** -/
theorem Desk.refusal?_eq_some_iff :
    d.refusal? b.group b.reservation = some refusal ↔ d.IsFirstObstacle b refusal := by
  have hfirst {refusal : Refusal} (h : d.refusal? b.group b.reservation = some refusal) :
      d.IsFirstObstacle b refusal := by
    rcases Option.or_eq_some_iff.1 h with hspan | ⟨hspan, hledger⟩
    · exact Desk.isFirstObstacle_of_span hspan
    · exact Desk.isFirstObstacle_of_ledger hspan hledger
  refine ⟨hfirst, fun h => ?_⟩
  cases hr : d.refusal? b.group b.reservation with
  | none => exact absurd h.1 (Desk.not_obstacle_of_none hr)
  | some first =>
    have hrank := Nat.le_antisymm ((hfirst hr).2 _ h.1) (h.2 _ (hfirst hr).1)
    rw [(hfirst hr).1.eq_of_rank_eq h.1 hrank]

end

/-! ## Answers -/

/-- A call that goes through its phases alone ends with the answer to its bid, and leaves the desk after
this answer. -/
theorem Traffic.run_ofCalls_call {d : Desk} (h : d.ledger.IsIndexed) (b : Bid) :
    (Traffic.ofCalls d [b.call]).run.calls = [{ b.call with phase := .finished (d.answer b).1 }] ∧
      (Traffic.ofCalls d [b.call]).run.desk = (d.answer b).2 := by
  obtain ⟨moves, hmoves⟩ := (Traffic.ofCalls d [b.call]).exists_follow_run
  have hcalls : (Traffic.ofCalls d [b.call]).calls = [b].map Bid.call := rfl
  obtain ⟨hbids, served, hperm, hphases, hdesk⟩ :=
    Traffic.exists_served_of_follow h hcalls hmoves (Traffic.isOver_run _)
  obtain ⟨c, hcalls, rfl⟩ := List.map_eq_singleton_iff.1 hbids
  rw [hcalls, List.perm_singleton] at hperm
  subst hperm
  have hphase : c.phase = .finished (d.answer c.bid).1 := List.singleton_inj.1 hphases
  refine ⟨?_, hdesk.symm⟩
  rw [hcalls, ← hphase]
  rfl

/-- **A desk reports the first obstacle to a bid, and takes a bid to which there is none.** The order is
that of the ranks: an empty span, a span out of the limits, one that is too wide for the desk, an unknown
group, a resource that the group does not list, and last the rule that rejects in the admission. So a bid
is taken exactly if its span is in order, its resource is listed and its user can reserve. A refused bid
changes nothing at all, and a taken one is put at the end of the log. No desk takes spans of more than 366
days, and the width is computed only of spans for which it fits into 64 bits. A call that goes through
its phases alone comes to the same end. -/
theorem Desk.reserve_reports_first_obstacle {d : Desk} (hd : d.Reachable) (b : Bid) :
    let r := b.reservation
    let outcome := (d.perform (.reserve b)).1
    let after := (d.perform (.reserve b)).2
    (∀ refusal, outcome = some refusal ↔
      d.Obstacle b refusal ∧ ∀ other, d.Obstacle b other → refusal.rank ≤ other.rank) ∧
    (outcome = none ↔
      (r.start < r.stop ∧ Desk.earliest ≤ r.start ∧ r.stop ≤ Desk.latest ∧
        r.stop - r.start ≤ d.maxSpan) ∧
      d.ledger.lists b.group r.resource = true ∧
      d.ledger.canReserve r.user b.group r.start r.stop = true) ∧
    (outcome.isSome → after = d) ∧
    (outcome = none → after.ledger.log = d.ledger.log.push r ∧
      after.ledger.groups = d.ledger.groups ∧ after.ledger.rules = d.ledger.rules ∧
      after.maxSpan = d.maxSpan) ∧
    (Refusal.outOfLimits.message = "limit exceeded: timestamp out of range" ∧
      Refusal.tooWide.message = "limit exceeded: span too wide") ∧
    (d.maxSpan ≤ Desk.widestSpan ∧
      (r.start < r.stop → Desk.earliest ≤ r.start → r.stop ≤ Desk.latest →
        Instant.least ≤ r.stop - r.start ∧ r.stop - r.start ≤ Instant.greatest)) ∧
    let t := (Traffic.ofCalls d [b.call]).run
    t.calls = [{ b.call with phase := .finished outcome }] ∧ t.desk = after := by
  intro r outcome after
  have houtcome : outcome = d.refusal? b.group r := d.fst_answer b
  refine ⟨fun refusal => ?_, ?_, fun h => ?_, fun h => ?_, ⟨rfl, rfl⟩,
    ⟨hd.maxSpan_le, fun hlt hfirst hlast => ?_⟩, Traffic.run_ofCalls_call hd.isIndexed b⟩
  · rw [houtcome]
    exact Desk.refusal?_eq_some_iff
  · rw [houtcome, Desk.refusal?_eq_none_iff, Desk.spanRefusal?_eq_none_iff,
      Ledger.refusal?_eq_none_iff, Ledger.canReserve, Admission.isAdmitted_iff]
  · obtain ⟨refusal, hrefusal⟩ := Option.isSome_iff_exists.1 h
    rw [houtcome] at hrefusal
    exact congrArg Prod.snd (Desk.answer_of_refusal hrefusal)
  · rw [houtcome] at h
    have hafter : after = d.apply (.reservation r) := congrArg Prod.snd (Desk.answer_of_none h)
    rw [hafter]
    exact ⟨rfl, rfl, rfl, rfl⟩
  · -- from 2000 to 2200 the milliseconds are far fewer than 64 bits hold
    simp only [Desk.earliest, Desk.latest, Instant.least, Instant.greatest] at *
    omega

/-- A desk that takes spans of at most a day, with the night of one user. -/
def Desk.oneDay : Desk :=
  (((Desk.ofLedger (Ledger.ofChanges Ledger.parking)).withMaxSpan 86400000).perform
    (.reserve (.night (.ofNat 4)))).2

/-- From the first to the last instant of 64 bits: too wide as well, but out of the limits first. -/
theorem Desk.reserve_reports_first_obstacle_allTime :
    let ever := Bid.parking (.ofNat 4) Instant.least Instant.greatest
    let night := Bid.night (.ofNat 6)
    Desk.oneDay.Reachable ∧ Desk.oneDay.Obstacle ever .tooWide ∧
      Desk.oneDay.perform (.reserve ever) = (some .outOfLimits, Desk.oneDay) ∧
      (Desk.oneDay.perform (.reserve night)).1 = none ∧
      (Desk.oneDay.perform (.reserve night)).2.ledger.log =
        Desk.oneDay.ledger.log.push night.reservation ∧
      night.reservation.stop - night.reservation.start ≤ Instant.greatest := by
  intro ever night
  have hd : Desk.oneDay.Reachable := .perform (.withMaxSpan (.ofLedger _) _) _
  have hspan : Desk.oneDay.maxSpan = 86400000 := Desk.maxSpan_perform _ _
  obtain ⟨hfirst, -, hsame, -⟩ := Desk.reserve_reports_first_obstacle hd ever
  obtain ⟨-, hnone, -, htaken, -, ⟨-, hwidth⟩, -⟩ := Desk.reserve_reports_first_obstacle hd night
  have hout : (Desk.oneDay.perform (.reserve ever)).1 = some .outOfLimits := by
    refine (hfirst _).2 ⟨.outOfLimits (.inl (by decide)), fun other hother => ?_⟩
    cases hother with
    | emptySpan h => exact absurd h (by decide)
    | _ => simp only [Refusal.rank, Nat.reduceLeDiff]
  have hroom : (Desk.oneDay.perform (.reserve night)).1 = none := by
    refine hnone.2 ⟨?_, by decide +kernel, by decide +kernel⟩
    rw [hspan]
    decide
  refine ⟨hd, .tooWide ?_, Prod.ext hout (hsame (by rw [hout]; rfl)), hroom, (htaken hroom).1,
    (hwidth (by decide) (by decide) (by decide)).2⟩
  rw [hspan]
  decide

end Booking
