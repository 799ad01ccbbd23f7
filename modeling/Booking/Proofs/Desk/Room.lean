import Booking.Proofs.Desk.Limit
import Booking.Proofs.Desk.Serial
/-!
# Room

How many reservations of one user a desk takes through one group, if the windows of the group's rules
accept a range by its two ends or not at all. Every reservation that is taken then takes up one of
each limit, and one that is not changes nothing. So their number is that of the eligible ones, as far
as the tightest of the limits leaves room for them (`Desk.countP_serve_eq_room`), whatever their order
(`Desk.taken_eq_room`).
-/
namespace Booking

/-! ## The least of a list and a number -/

theorem le_foldr_min_iff : ∀ {ns : List Nat} {k n : Nat},
    k ≤ ns.foldr min n ↔ k ≤ n ∧ ∀ m ∈ ns, k ≤ m
  | [], _, _ => by simp
  | m :: ns, k, n => by
    rw [List.foldr_cons, Nat.le_min, le_foldr_min_iff, List.forall_mem_cons, and_left_comm]

theorem foldr_min_map_succ : ∀ (ns : List Nat) (n : Nat),
    (ns.map (· + 1)).foldr min (n + 1) = ns.foldr min n + 1
  | [], _ => rfl
  | m :: ns, n => by
    rw [List.map_cons, List.foldr_cons, List.foldr_cons, foldr_min_map_succ ns n,
      Nat.add_min_add_right]

/-! ## Room and eligibility -/

/-- How many of `n` reservations the limits of the group's rules leave room for. -/
def Ledger.room (l : Ledger) (user g : Ident) (n : Nat) : Nat :=
  ((l.rulesFor g).map (fun rule => rule.limit - l.used rule user g)).foldr min n

/-- Nothing but a limit can keep the desk from taking the reservation, and every rule would count it:
its span is in order, the group lists its resource, and the windows of all rules accept its two
ends. -/
def Desk.isEligible (d : Desk) (g : Ident) (r : Reservation) : Bool :=
  (Desk.spanRefusal? d.maxSpan r.start r.stop).isNone && d.ledger.lists g r.resource &&
    (d.ledger.rulesFor g).all (fun rule => rule.counts r)

theorem Desk.isEligible_iff (d : Desk) (g : Ident) (r : Reservation) :
    d.isEligible g r = true ↔
      Desk.spanRefusal? d.maxSpan r.start r.stop = none ∧ d.ledger.lists g r.resource = true ∧
        ∀ rule ∈ d.ledger.rulesFor g, rule.counts r = true := by
  simp [Desk.isEligible, and_assoc]

/-- No rule of the group accepts the reservation's range but by its two ends. -/
def Ledger.AcceptsByEnds (l : Ledger) (g : Ident) (r : Reservation) : Prop :=
  ∀ rule ∈ l.rulesFor g, rule.window.acceptsRange r.start r.stop = true → rule.counts r = true

theorem Rule.acceptsRange_of_counts {rule : Rule} {r : Reservation} (h : rule.counts r = true) :
    rule.window.acceptsRange r.start r.stop = true := by
  unfold Rule.counts at h
  rw [Pattern.acceptsRange, h, Bool.true_or]

section

variable {d : Desk} {g : Ident} {r : Reservation}

/-- A full limit leaves no room. -/
theorem Ledger.room_eq_zero {l : Ledger} {rule : Rule} {user : Ident} (hr : rule ∈ l.rulesFor g)
    (h : rule.limit ≤ l.used rule user g) (n : Nat) : l.room user g n = 0 := by
  have hle := (le_foldr_min_iff.1 (Nat.le_refl (l.room user g n))).2 _
    (List.mem_map.2 ⟨rule, hr, rfl⟩)
  omega

theorem Ledger.room_le (l : Ledger) (user g : Ident) (n : Nat) : l.room user g n ≤ n :=
  (le_foldr_min_iff.1 (Nat.le_refl _)).1

/-- **A reservation that is taken is eligible**, and takes one place of the room. -/
theorem Desk.room_of_taken (h : d.ledger.IsIndexed) (hw : d.ledger.AcceptsByEnds g r)
    (ht : (d.answer ⟨g, r⟩).1 = none) :
    d.isEligible g r = true ∧ ∀ n,
      d.ledger.room r.user g (n + 1) = (d.answer ⟨g, r⟩).2.ledger.room r.user g n + 1 := by
  obtain ⟨hlists, hroom⟩ := Desk.of_taken h ht
  have hcounts : ∀ rule ∈ d.ledger.rulesFor g, rule.counts r = true :=
    fun rule hr => hw rule hr (hroom rule hr).1
  refine ⟨(d.isEligible_iff g r).2 ⟨?_, hlists, hcounts⟩, fun n => ?_⟩
  · rw [Desk.fst_answer, Desk.refusal?_eq_none_iff] at ht
    exact ht.1
  · have hleft : (d.ledger.rulesFor g).map (fun rule => rule.limit - d.ledger.used rule r.user g) =
        ((d.ledger.rulesFor g).map (fun rule =>
          rule.limit - (d.answer ⟨g, r⟩).2.ledger.used rule r.user g)).map (· + 1) := by
      rw [List.map_map]
      refine List.map_congr_left (fun rule hr => ?_)
      have hstep : (d.answer ⟨g, r⟩).2.ledger.used rule r.user g =
          d.ledger.used rule r.user g + if rule.counts r = true then 1 else 0 :=
        Desk.used_answer_of_taken h ht rule
      rw [if_pos (hcounts rule hr)] at hstep
      have hlt : d.ledger.used rule r.user g < rule.limit := (hroom rule hr).2
      simp only [Function.comp_apply]
      omega
    rw [Ledger.room, hleft, foldr_min_map_succ, Ledger.room, Desk.rulesFor_answer]

/-- **A reservation that is refused is not eligible, or there is no room.** -/
theorem Desk.room_of_refused (h : d.ledger.IsIndexed) (ht : (d.answer ⟨g, r⟩).1 ≠ none)
    (he : d.isEligible g r = true) (n : Nat) : d.ledger.room r.user g n = 0 := by
  obtain ⟨hspan, hlists, hcounts⟩ := (d.isEligible_iff g r).1 he
  have hfull : ∃ rule ∈ d.ledger.rulesFor g, rule.limit ≤ d.ledger.used rule r.user g := by
    refine Classical.byContradiction (fun hroom => ht ?_)
    rw [Desk.fst_answer, Desk.refusal?_eq_none_iff, Ledger.refusal?_eq_none_iff_used h]
    refine ⟨hspan, hlists, fun rule hr => ⟨Rule.acceptsRange_of_counts (hcounts rule hr), ?_⟩⟩
    exact Nat.lt_of_not_le (fun hle => hroom ⟨rule, hr, hle⟩)
  obtain ⟨rule, hr, hle⟩ := hfull
  exact Ledger.room_eq_zero hr hle n

theorem Desk.isEligible_answer (d : Desk) (b : Bid) (g : Ident) :
    (d.answer b).2.isEligible g = d.isEligible g := by
  funext r
  rw [Desk.isEligible, Desk.maxSpan_answer, Desk.rulesFor_answer, Ledger.lists, Desk.group?_answer]
  rfl

end

/-- **As many reservations are taken as are eligible, as far as there is room.** -/
theorem Desk.countP_serve_eq_room (user g : Ident) : ∀ (rs : List Reservation) {d : Desk},
    d.ledger.IsIndexed → (∀ r ∈ rs, r.user = user) → (∀ r ∈ rs, d.ledger.AcceptsByEnds g r) →
      (d.serve (rs.map (Bid.mk g))).1.countP Option.isNone =
        d.ledger.room user g (rs.countP (d.isEligible g))
  | [], d, _, _, _ => by
    rw [List.countP_nil, Nat.le_zero.1 (d.ledger.room_le user g 0)]
    rfl
  | r :: rs, d, h, hu, hw => by
    obtain ⟨rfl, hu⟩ := List.forall_mem_cons.1 hu
    obtain ⟨hr, hw⟩ := List.forall_mem_cons.1 hw
    have hw' : ∀ r' ∈ rs, (d.answer ⟨g, r⟩).2.ledger.AcceptsByEnds g r' := by
      intro r' hr'
      rw [Ledger.AcceptsByEnds, Desk.rulesFor_answer]
      exact hw r' hr'
    have ih := Desk.countP_serve_eq_room r.user g rs (Desk.isIndexed_answer h ⟨g, r⟩) hu hw'
    rw [Desk.isEligible_answer] at ih
    rw [List.map_cons, Desk.serve]
    by_cases ht : (d.answer ⟨g, r⟩).1 = none
    · obtain ⟨he, hroom⟩ := Desk.room_of_taken h hr ht
      rw [List.countP_cons_of_pos (by rw [ht]; rfl), List.countP_cons_of_pos he, hroom, ih]
    · have hsame : (d.answer ⟨g, r⟩).2 = d := by
        rcases d.answer_cases ⟨g, r⟩ with ⟨refusal, -, ha⟩ | ⟨-, ha⟩
        · rw [ha]
        · rw [ha] at ht
          exact absurd rfl ht
      rw [List.countP_cons_of_neg (by simpa using ht), ih, hsame, List.countP_cons]
      split
      · rename_i he
        rw [Desk.room_of_refused h ht he, Desk.room_of_refused h ht he]
      · rfl

/-- **How many reservations are taken does not depend on their order.** Let a user ask for
reservations through a group none of whose rules accepts one of their ranges but by its two ends. As
many are taken as are eligible, or as the tightest of the limits leaves room for, what was used of it
before being subtracted; and as many in every other order, and by calls whose steps are mixed in any
way. -/
theorem Desk.taken_eq_room (cs : List Ledger.Change) (maxSpan : Int) (user g : Ident)
    (rs : List Reservation) (hu : ∀ r ∈ rs, r.user = user)
    (hw : ∀ r ∈ rs, (Ledger.ofChanges cs).AcceptsByEnds g r) :
    let l := Ledger.ofChanges cs
    let d : Desk := { ledger := l, maxSpan }
    let room := ((l.rulesFor g).map (fun rule =>
      rule.limit - l.log.toList.countP (l.countsIn rule user g))).foldr min
        (rs.countP (d.isEligible g))
    (d.serve (rs.map (Bid.mk g))).1.countP Option.isNone = room ∧
    (∀ rs' : List Reservation, rs'.Perm rs →
      (d.serve (rs'.map (Bid.mk g))).1.countP Option.isNone = room) ∧
    ∀ (t₀ t : Traffic) (moves : List Nat), t₀.desk = d →
      t₀.calls = (rs.map (Bid.mk g)).map Bid.call → t₀.follow? moves = some t →
      t.isOver = true → t.takenCount = room := by
  intro l d room
  have hd : d.ledger.IsIndexed := Ledger.isIndexed_ofChanges cs
  have hroom : room = l.room user g (rs.countP (d.isEligible g)) := by
    have hl : l.IsIndexed := hd
    simp only [room, Ledger.room, Ledger.used_eq_countP hl]
  have hperm : ∀ rs' : List Reservation, rs'.Perm rs →
      (d.serve (rs'.map (Bid.mk g))).1.countP Option.isNone = room := by
    intro rs' h
    rw [hroom, ← h.countP_eq]
    exact Desk.countP_serve_eq_room user g rs' hd (fun r hr => hu r (h.mem_iff.1 hr))
      (fun r hr => hw r (h.mem_iff.1 hr))
  refine ⟨hperm rs (.refl rs), hperm, fun t₀ t moves hdesk hcalls hmoves hover => ?_⟩
  obtain ⟨served, hserved, hcount, -⟩ := Traffic.exists_served_reservations
    (hdesk ▸ hd) hcalls hmoves hover
  rw [hcount, hdesk, hperm served hserved]

/-- Two nights for each user, of which one is taken; a second rule leaves more. -/
def Ledger.halfFull : List Ledger.Change :=
  .rule { Rule.oneNight with id := .ofNat 8, limit := 2 } ::
    .rule { Rule.oneNight with id := .ofNat 9, limit := 5 } ::
    Ledger.parking.take 1 ++ [.reservation (Bid.night (.ofNat 4)).reservation]

/-- A day, which no window accepts, and three nights. -/
def Reservation.dayAndNights : List Reservation :=
  [(1673002800000, 1673020800000), (1673031600000, 1673074800000), (1673118000000, 1673161200000),
    (1673204400000, 1673247600000)].map (fun q => (Bid.parking (.ofNat 4) q.1 q.2).reservation)

theorem Desk.taken_eq_room_halfFull :
    ∃ rs, rs = Reservation.dayAndNights ∧
      let d : Desk := Desk.ofLedger (Ledger.ofChanges Ledger.halfFull)
      (∀ r ∈ rs, r.user = .ofNat 4) ∧ (∀ r ∈ rs, d.ledger.AcceptsByEnds (.ofNat 1) r) ∧
        rs.countP (d.isEligible (.ofNat 1)) = 3 ∧
        (d.serve (rs.map (Bid.mk (.ofNat 1)))).1.countP Option.isNone = 1 ∧
        (d.serve (rs.reverse.map (Bid.mk (.ofNat 1)))).1.countP Option.isNone = 1 := by
  obtain ⟨rs, hrs⟩ : ∃ rs, rs = Reservation.dayAndNights := ⟨_, rfl⟩
  have hu : ∀ r ∈ rs, r.user = .ofNat 4 := by
    rw [hrs]
    decide +kernel
  have hw : ∀ r ∈ rs, (Ledger.ofChanges Ledger.halfFull).AcceptsByEnds (.ofNat 1) r := by
    rw [hrs]
    unfold Ledger.AcceptsByEnds
    decide +kernel
  obtain ⟨hcount, hperm, -⟩ :=
    Desk.taken_eq_room Ledger.halfFull Desk.widestSpan (.ofNat 4) (.ofNat 1) rs hu hw
  refine ⟨rs, hrs, hu, hw, ?_, hcount.trans ?_, (hperm _ rs.reverse_perm).trans ?_⟩ <;> rw [hrs] <;>
    decide +kernel

end Booking
