import Booking.Proofs.Desk.Progress
import Booking.Proofs.Desk.Serve
import Booking.Proofs.Ledger.Users
import Booking.Proofs.Traverse
/-!
# Calls as bids one after the other

However the steps of calls are mixed, the calls get the answers, and leave the log, of their bids
served one after the other. The order is the one in which the calls settle: a call is refused for
its span, or has its refusal recorded, or enters its reservation. What a call has decided before
that stays right, since only calls of other users have entered anything in between.
-/
namespace Booking

def Bid.call (b : Bid) : Call := { group := b.group, reservation := b.reservation }

def Call.bid (c : Call) : Bid := { group := c.group, reservation := c.reservation }

/-- What came of the call, once it is settled. -/
def Call.Phase.answer? : Call.Phase → Option (Option Refusal)
  | .settled _ refusal | .released _ refusal | .leaving refusal | .finished refusal => some refusal
  | _ => none

def Traffic.answer? (t : Traffic) (i : Nat) : Option (Option Refusal) :=
  t.calls[i]?.bind (fun c => c.phase.answer?)

/-- What the call has found out so far is so. -/
def Call.IsRight (d : Desk) (c : Call) : Prop :=
  match c.phase with
  | .checked | .waiting _ | .holding _ =>
    Desk.spanRefusal? d.maxSpan c.reservation.start c.reservation.stop = none
  | .decided _ refusal => d.refusal? c.group c.reservation = refusal
  | .abandoned => False
  | _ => True

theorem Call.isRight_of_answer {d : Desk} {c : Call} {refusal : Option Refusal}
    (h : c.phase.answer? = some refusal) : c.IsRight d := by
  unfold Call.IsRight
  cases hp : c.phase with
  | settled | released | leaving | finished => trivial
  | arrived | checked | waiting | holding | decided | abandoned => rw [hp] at h; cases h

/-- An entry of another user leaves right what the call has found out. -/
theorem Call.IsRight.apply {d : Desk} {c : Call} (h : c.IsRight d) (hd : d.ledger.IsIndexed)
    {r : Reservation} (hr : c.phase.held?.isSome → r.user ≠ c.user) :
    c.IsRight (d.apply (.reservation r)) := by
  unfold Call.IsRight at h ⊢
  cases hp : c.phase with
  | decided lock refusal =>
    rw [hp] at h hr
    have hledger : (d.ledger.addReservation r).refusal? c.group c.reservation =
        d.ledger.refusal? c.group c.reservation :=
      Ledger.refusal?_addReservation_of_ne hd (hr rfl) c.group
    show (Desk.spanRefusal? d.maxSpan _ _).or ((d.ledger.addReservation r).refusal? _ _) = refusal
    rw [hledger]
    exact h
  | arrived | checked | waiting | holding | settled | released | leaving | finished | abandoned =>
    rw [hp] at h
    exact h

/-! ## The invariant -/

/-- **The calls of `order` are settled, as their bids are served in this order**, and the other
calls are not. -/
structure Traffic.IsServed (d : Desk) (bs : List Bid) (t : Traffic) (order : List Nat) : Prop where
  bids : t.calls.map Call.bid = bs
  nodup : order.Nodup
  pending : ∀ j, j ∉ order → t.answer? j = none
  answers : (d.serve (order.filterMap (fun j => bs[j]?))).1.map some = order.map t.answer?
  desk : (d.serve (order.filterMap (fun j => bs[j]?))).2 = t.desk
  right : ∀ c ∈ t.calls, c.IsRight t.desk

section

variable {d : Desk} {bs : List Bid} {t t' : Traffic} {order : List Nat} {i : Nat} {c : Call}
  {phase : Call.Phase}

theorem Traffic.IsServed.answer_isSome (h : t.IsServed d bs order) {j : Nat} (hj : j ∈ order) :
    (t.answer? j).isSome := by
  have hmem : t.answer? j ∈ order.map t.answer? := List.mem_map_of_mem hj
  rw [← h.answers] at hmem
  obtain ⟨a, -, ha⟩ := List.mem_map.1 hmem
  rw [← ha]
  rfl

theorem Traffic.IsServed.notMem (h : t.IsServed d bs order) (hc : t.calls[i]? = some c)
    (hp : c.phase.answer? = none) : i ∉ order := by
  intro hi
  have hsome := h.answer_isSome hi
  rw [Traffic.answer?, hc, Option.bind_some, hp] at hsome
  cases hsome

theorem Traffic.answer?_eq (hc : t.calls[i]? = some c) : t.answer? i = c.phase.answer? := by
  rw [Traffic.answer?, hc, Option.bind_some]

theorem Traffic.map_bid_move (t : Traffic) (i : Nat) (phase : Call.Phase) :
    (t.move i phase).calls.map Call.bid = t.calls.map Call.bid := by
  refine List.ext_getElem? (fun j => ?_)
  rw [List.getElem?_map, List.getElem?_map, Traffic.getElem?_move]
  split
  · rw [Option.map_map]
    rfl
  · rfl

theorem Traffic.answer?_move_of_ne (t : Traffic) {j : Nat} (phase : Call.Phase) (h : j ≠ i) :
    (t.move i phase).answer? j = t.answer? j := by
  rw [Traffic.answer?, Traffic.getElem?_move, if_neg (Ne.symm h), Traffic.answer?]

theorem Traffic.answer?_move (hc : t.calls[i]? = some c) (phase : Call.Phase) :
    (t.move i phase).answer? i = phase.answer? := by
  rw [Traffic.answer?, Traffic.getElem?_move, if_pos rfl, hc, Option.map_some, Option.bind_some]

/-- A move within the settled or the unsettled phases settles no call. -/
theorem Traffic.IsServed.move (h : t.IsServed d bs order) (hc : t.calls[i]? = some c)
    (hcalls : t'.calls = (t.move i phase).calls) (hdesk : t'.desk = t.desk)
    (hanswer : phase.answer? = c.phase.answer?)
    (hright : c.IsRight t.desk → Call.IsRight t.desk { c with phase }) :
    t'.IsServed d bs order := by
  have hsame : t'.answer? = t.answer? := by
    funext j
    have hmove : t'.answer? j = (t.move i phase).answer? j := by
      rw [Traffic.answer?, hcalls, Traffic.answer?]
    rw [hmove]
    by_cases hj : j = i
    · subst hj
      rw [Traffic.answer?_move hc, Traffic.answer?_eq hc, hanswer]
    · exact t.answer?_move_of_ne phase hj
  refine ⟨?_, h.nodup, ?_, ?_, ?_, fun c' hmem => ?_⟩
  · rw [hcalls, Traffic.map_bid_move, h.bids]
  · rw [hsame]
    exact h.pending
  · rw [hsame]
    exact h.answers
  · rw [hdesk]
    exact h.desk
  · rw [hcalls] at hmem
    rw [hdesk]
    obtain ⟨j, hj⟩ := List.mem_iff_getElem?.1 hmem
    rcases Traffic.calls_move_cases hc hj with ⟨-, rfl⟩ | ⟨-, hj'⟩
    · exact hright (h.right c (List.mem_of_getElem? hc))
    · exact h.right c' (List.mem_of_getElem? hj')

/-- A call that settles with the answer of the desk comes last in the order. -/
theorem Traffic.IsServed.settle (h : t.IsServed d bs order) (hc : t.calls[i]? = some c)
    (hnone : c.phase.answer? = none) (hcalls : t'.calls = (t.move i phase).calls)
    (hanswer : phase.answer? = some (t.desk.answer c.bid).1)
    (hdesk : t'.desk = (t.desk.answer c.bid).2)
    (hright : ∀ j c', j ≠ i → t.calls[j]? = some c' → c'.IsRight t'.desk) :
    t'.IsServed d bs (order ++ [i]) := by
  have hi : i ∉ order := h.notMem hc hnone
  have hmove : ∀ j, t'.answer? j = (t.move i phase).answer? j := by
    intro j
    rw [Traffic.answer?, hcalls, Traffic.answer?]
  have hbid : bs[i]? = some c.bid := by
    rw [← h.bids, List.getElem?_map, hc, Option.map_some]
  have hserve : d.serve ((order ++ [i]).filterMap (fun j => bs[j]?)) =
      ((d.serve (order.filterMap (fun j => bs[j]?))).1 ++ [(t.desk.answer c.bid).1],
        (t.desk.answer c.bid).2) := by
    rw [List.filterMap_append, List.filterMap_cons_some hbid, List.filterMap_nil,
      Desk.serve_concat, h.desk]
  refine ⟨?_, ?_, fun j hj => ?_, ?_, ?_, fun c' hmem => ?_⟩
  · rw [hcalls, Traffic.map_bid_move, h.bids]
  · rw [List.nodup_append]
    refine ⟨h.nodup, List.pairwise_singleton _ i, fun a ha b hb hab => ?_⟩
    rw [List.mem_singleton.1 hb] at hab
    exact hi (hab ▸ ha)
  · rw [List.mem_append, List.mem_singleton, not_or] at hj
    rw [hmove, t.answer?_move_of_ne phase hj.2]
    exact h.pending j hj.1
  · have hold : order.map t'.answer? = order.map t.answer? := by
      refine List.map_congr_left (fun j hj => ?_)
      have hji : j ≠ i := by
        rintro rfl
        exact hi hj
      rw [hmove, t.answer?_move_of_ne phase hji]
    rw [hserve, List.map_append, List.map_append, h.answers, hold]
    simp only [List.map_cons, List.map_nil]
    rw [hmove, Traffic.answer?_move hc, hanswer]
  · rw [hserve, hdesk]
  · rw [hcalls] at hmem
    obtain ⟨j, hj⟩ := List.mem_iff_getElem?.1 hmem
    rcases Traffic.calls_move_cases hc hj with ⟨-, rfl⟩ | ⟨hji, hj'⟩
    · exact Call.isRight_of_answer hanswer
    · exact hright j c' hji hj'

theorem Traffic.IsServed.refuse (h : t.IsServed d bs order) (hc : t.calls[i]? = some c)
    (hnone : c.phase.answer? = none) {refusal : Refusal}
    (hrefusal : t.desk.refusal? c.group c.reservation = some refusal)
    (hanswer : phase.answer? = some (some refusal)) :
    (t.move i phase).IsServed d bs (order ++ [i]) := by
  have ha : t.desk.answer c.bid = (some refusal, t.desk) := Desk.answer_of_refusal hrefusal
  refine h.settle hc hnone rfl ?_ ?_ (fun j c' _ hj => h.right c' (List.mem_of_getElem? hj))
  · rw [ha]
    exact hanswer
  · rw [ha]
    rfl

/-! ## Every step -/

/-- **Every step keeps the calls served in some order**: the old one, or the old one with the call
that moves as the last. -/
theorem Traffic.IsServed.step (h : t.IsServed d bs order) (hd : d.ledger.IsIndexed)
    (hl : t.IsLocked) (hc : t.calls[i]? = some c) (hstep : t.Step i c t') :
    t'.IsServed d bs order ∨ t'.IsServed d bs (order ++ [i]) := by
  have hright : c.IsRight t.desk := h.right c (List.mem_of_getElem? hc)
  have hindexed : t.desk.ledger.IsIndexed := by
    rw [← h.desk]
    exact Desk.isIndexed_serve _ hd
  cases hstep with
  | refuse refusal hp hspan =>
    have hrefusal : t.desk.refusal? c.group c.reservation = some refusal := by
      rw [Desk.refusal?, hspan, Option.some_or]
    exact .inr (h.refuse hc (by rw [hp]; rfl) hrefusal rfl)
  | check hp hspan => exact .inl (h.move hc rfl rfl (by rw [hp]; rfl) (fun _ => hspan))
  | take hp =>
    obtain ⟨lock, hcalls, hdesk, -⟩ := t.takeHandle_spec i c.user
    refine .inl (h.move hc hcalls hdesk (by rw [hp]; rfl) (fun hr => ?_))
    rw [Call.IsRight, hp] at hr
    exact hr
  | acquire lock hp _ =>
    refine .inl (h.move hc rfl rfl (by rw [hp]; rfl) (fun hr => ?_))
    rw [Call.IsRight, hp] at hr
    exact hr
  | decide lock hp =>
    refine .inl (h.move hc rfl rfl (by rw [hp]; rfl) (fun hr => ?_))
    rw [Call.IsRight, hp] at hr
    show (Desk.spanRefusal? _ _ _).or _ = _
    rw [hr, Option.none_or]
  | discard lock refusal hp =>
    rw [Call.IsRight, hp] at hright
    exact .inr (h.refuse hc (by rw [hp]; rfl) hright rfl)
  | enter lock hp =>
    rw [Call.IsRight, hp] at hright
    have ha : t.desk.answer c.bid = (none, t.desk.apply (.reservation c.reservation)) :=
      Desk.answer_of_none hright
    refine .inr (h.settle hc (by rw [hp]; rfl) rfl ?_ ?_ (fun j c' hji hj => ?_))
    · rw [ha]
      rfl
    · rw [ha]
    · -- a call of the same user that holds its lock would be this call itself
      refine (h.right c' (List.mem_of_getElem? hj)).apply hindexed (fun hheld hu => hji ?_)
      exact hl.eq_of_held hj hc hu.symm hheld (by rw [hp]; rfl)
  | release lock refusal hp =>
    exact .inl (h.move hc rfl rfl (by rw [hp]; rfl) (fun _ => trivial))
  | drop lock refusal hp =>
    exact .inl (h.move hc rfl rfl (by rw [hp]; rfl) (fun _ => trivial))
  | leave refusal hp =>
    exact .inl (h.move hc rfl rfl (by rw [hp]; rfl) (fun _ => trivial))

end

/-! ## A whole run -/

theorem Traffic.IsServed.follow : ∀ (moves : List Nat) {d : Desk} {bs : List Bid}
    {t t' : Traffic} {order : List Nat}, t.IsServed d bs order → d.ledger.IsIndexed → t.IsLocked →
    t.follow? moves = some t' → ∃ order', t'.IsServed d bs order'
  | [], _, _, _, _, order, h, _, _, ht => by
    cases ht
    exact ⟨order, h⟩
  | i :: moves, d, bs, t, t', order, h, hd, hl, ht => by
    obtain ⟨t₁, h₁, ht₁⟩ := Option.bind_eq_some_iff.1 ht
    obtain ⟨c, hc, hstep⟩ := Traffic.step_of_step? h₁
    rcases h.step hd hl hc hstep with hsame | hmore
    · exact Traffic.IsServed.follow moves hsame hd (hl.step hc hstep) ht₁
    · exact Traffic.IsServed.follow moves hmore hd (hl.step hc hstep) ht₁

theorem Traffic.isServed_of_bids {t : Traffic} {bs : List Bid} (h : t.calls = bs.map Bid.call) :
    t.IsServed t.desk bs [] := by
  refine ⟨?_, List.nodup_nil, fun j _ => ?_, rfl, rfl, fun c hc => ?_⟩
  · rw [h, List.map_map]
    exact List.map_id bs
  · rw [Traffic.answer?, h, List.getElem?_map]
    cases bs[j]? <;> rfl
  · rw [h] at hc
    obtain ⟨b, -, rfl⟩ := List.mem_map.1 hc
    trivial

theorem Traffic.IsServed.exists_finished {d : Desk} {bs : List Bid} {t : Traffic}
    {order : List Nat} (h : t.IsServed d bs order) (hover : t.isOver = true) :
    ∀ c ∈ t.calls, ∃ refusal, c.phase = .finished refusal := by
  intro c hc
  have hphase := List.all_eq_true.1 hover c hc
  have hright := h.right c hc
  unfold Call.IsRight at hright
  cases hp : c.phase with
  | finished refusal => exact ⟨refusal, rfl⟩
  | abandoned => rw [hp] at hright; exact hright.elim
  | _ => rw [hp] at hphase; cases hphase

/-- When all calls are over, all are settled. -/
theorem Traffic.IsServed.perm_range {d : Desk} {bs : List Bid} {t : Traffic} {order : List Nat}
    (h : t.IsServed d bs order) (hover : t.isOver = true) :
    order.Perm (List.range t.calls.length) := by
  refine (List.perm_ext_iff_of_nodup h.nodup List.nodup_range).2 (fun j => ?_)
  rw [List.mem_range]
  constructor
  · intro hj
    have hsome := h.answer_isSome hj
    rw [Traffic.answer?] at hsome
    refine Classical.byContradiction (fun hlt => ?_)
    rw [List.getElem?_eq_none (Nat.le_of_not_lt hlt)] at hsome
    cases hsome
  · intro hj
    refine Classical.byContradiction (fun hmem => ?_)
    obtain ⟨refusal, hp⟩ := h.exists_finished hover _ (List.getElem_mem hj)
    have hnone := h.pending j hmem
    rw [Traffic.answer?_eq (List.getElem?_eq_getElem hj), hp] at hnone
    cases hnone

/-- What is served in order gives what came of the calls, if all are over. -/
theorem Traffic.IsServed.exists_served {d : Desk} {bs : List Bid} {t : Traffic} {order : List Nat}
    (h : t.IsServed d bs order) (hover : t.isOver = true) :
    ∃ served : List Call, served.Perm t.calls ∧
      served.map Call.phase = (d.serve (served.map Call.bid)).1.map Call.Phase.finished ∧
      (d.serve (served.map Call.bid)).2 = t.desk := by
  have hperm := h.perm_range hover
  have hsome : ∀ j ∈ order, (t.calls[j]?).isSome := by
    intro j hj
    have hlt := List.mem_range.1 (hperm.mem_iff.1 hj)
    rw [List.getElem?_eq_getElem hlt]
    rfl
  let served := order.filterMap (fun j => t.calls[j]?)
  have hserved : order.map (fun j => t.calls[j]?) = served.map some :=
    map_eq_map_some_filterMap _ order hsome
  have hcalls : served.Perm t.calls := by
    have := hperm.filterMap (fun j => t.calls[j]?)
    rwa [filterMap_getElem?_range] at this
  have hbids : order.filterMap (fun j => bs[j]?) = served.map Call.bid := by
    rw [List.map_filterMap]
    refine congrArg (fun f => List.filterMap f order) (funext (fun j => ?_))
    rw [← h.bids, List.getElem?_map]
  have hanswers : order.map t.answer? = served.map (fun c => c.phase.answer?) := by
    have hmap : order.map t.answer? =
        (order.map (fun j => t.calls[j]?)).map (fun c? => c?.bind (fun c => c.phase.answer?)) := by
      rw [List.map_map]
      rfl
    rw [hmap, hserved, List.map_map]
    rfl
  have hfinished : ∀ c ∈ served,
      c.phase = (c.phase.answer?).elim .abandoned Call.Phase.finished := by
    intro c hc
    obtain ⟨refusal, hp⟩ := h.exists_finished hover c (hcalls.mem_iff.1 hc)
    rw [hp]
    rfl
  refine ⟨served, hcalls, ?_, ?_⟩
  · rw [List.map_congr_left hfinished]
    have hmap : served.map (fun c => (c.phase.answer?).elim .abandoned Call.Phase.finished) =
        (served.map (fun c => c.phase.answer?)).map (fun a => a.elim .abandoned .finished) := by
      rw [List.map_map]
      rfl
    rw [hmap, ← hanswers, ← h.answers, hbids, List.map_map]
    rfl
  · rw [← hbids]
    exact h.desk

theorem Traffic.arrived_of_bids {t : Traffic} {bs : List Bid} (h : t.calls = bs.map Bid.call) :
    ∀ c ∈ t.calls, c.phase = .arrived := by
  intro c hc
  rw [h] at hc
  obtain ⟨b, -, rfl⟩ := List.mem_map.1 hc
  rfl

theorem Traffic.exists_served_of_follow {t₀ t : Traffic} {bs : List Bid} {moves : List Nat}
    (hindexed : t₀.desk.ledger.IsIndexed) (hcalls : t₀.calls = bs.map Bid.call)
    (hmoves : t₀.follow? moves = some t) (hover : t.isOver = true) :
    t.calls.map Call.bid = bs ∧
    ∃ served : List Call, served.Perm t.calls ∧
      served.map Call.phase = (t₀.desk.serve (served.map Call.bid)).1.map Call.Phase.finished ∧
      (t₀.desk.serve (served.map Call.bid)).2 = t.desk := by
  have hlocked := Traffic.isLocked_of_arrived (Traffic.arrived_of_bids hcalls)
  obtain ⟨order, h⟩ := (Traffic.isServed_of_bids hcalls).follow moves hindexed hlocked hmoves
  exact ⟨h.bids, h.exists_served hover⟩

/-- **Calls that are mixed in any way give the same as one after the other**: at no time are two
calls of one user between acquiring and releasing a lock, and when all calls are over, there is an
order in which their bids are served with the same answers and the same log. -/
theorem Traffic.exists_serial_order {t₀ t : Traffic} {cs : List Ledger.Change} {bs : List Bid}
    {moves : List Nat} (hledger : t₀.desk.ledger = Ledger.ofChanges cs)
    (hcalls : t₀.calls = bs.map Bid.call) (hmoves : t₀.follow? moves = some t)
    (hover : t.isOver = true) :
    (∀ (k : Nat) (t' : Traffic), t₀.follow? (moves.take k) = some t' →
      ∀ (i j : Nat) (c c' : Call), t'.calls[i]? = some c → t'.calls[j]? = some c' →
        c.user = c'.user → c.phase.held?.isSome → c'.phase.held?.isSome → i = j) ∧
    t.calls.map Call.bid = bs ∧
    ∃ served : List Call, served.Perm t.calls ∧
      served.map Call.phase = (t₀.desk.serve (served.map Call.bid)).1.map Call.Phase.finished ∧
      (t₀.desk.serve (served.map Call.bid)).2 = t.desk := by
  have hlocked : t₀.IsLocked := Traffic.isLocked_of_arrived (Traffic.arrived_of_bids hcalls)
  have hindexed : t₀.desk.ledger.IsIndexed := by
    rw [hledger]
    exact Ledger.isIndexed_ofChanges cs
  refine ⟨fun k t' ht' i j c c' hi hj hu hc hc' => ?_,
    Traffic.exists_served_of_follow hindexed hcalls hmoves hover⟩
  exact (hlocked.follow _ ht').eq_of_held hi hj hu hc hc'

/-- Two calls of one user and one of another ask for the same night. -/
def Traffic.oneNight : Traffic :=
  .ofCalls { ledger := Ledger.ofChanges Ledger.parking, maxSpan := 86400000 }
    ([.night (.ofNat 4), .night (.ofNat 4), .night (.ofNat 6)].map Bid.call)

theorem Traffic.exists_serial_order_oneNight :
    ∃ t, Traffic.oneNight.follow?
        [0, 1, 0, 0, 1, 2, 2, 2, 0, 2, 0, 2, 0, 1, 0, 0, 1, 1, 2, 2, 1, 2, 1, 1] = some t ∧
      t.calls.map Call.phase =
        [.finished none, .finished (some (.rejected (.ofNat 3))), .finished none] ∧
      ∃ served : List Call, served.Perm t.calls ∧
        served.map Call.phase =
          (Traffic.oneNight.desk.serve (served.map Call.bid)).1.map Call.Phase.finished ∧
        (Traffic.oneNight.desk.serve (served.map Call.bid)).2 = t.desk := by
  generalize hmoves : Traffic.oneNight.follow? _ = t?
  have hphases : t?.map (fun t => t.calls.map Call.phase) =
      some [.finished none, .finished (some (.rejected (.ofNat 3))), .finished none] := by
    rw [← hmoves]
    decide +kernel
  have hover : t?.all Traffic.isOver = true := by
    rw [← hmoves]
    decide +kernel
  obtain ⟨t, rfl, ht⟩ := Option.map_eq_some_iff.1 hphases
  exact ⟨t, rfl, ht, (Traffic.exists_serial_order rfl rfl hmoves hover).2.2⟩

/-- Calls for reservations through one group, mixed in any way, are taken as if the reservations
were asked for one after the other in some order. -/
theorem Traffic.exists_served_reservations {t₀ t : Traffic} {g : Ident} {rs : List Reservation}
    {moves : List Nat} (hindexed : t₀.desk.ledger.IsIndexed)
    (hcalls : t₀.calls = (rs.map (Bid.mk g)).map Bid.call) (hmoves : t₀.follow? moves = some t)
    (hover : t.isOver = true) :
    ∃ served : List Reservation, served.Perm rs ∧
      t.takenCount = (t₀.desk.serve (served.map (Bid.mk g))).1.countP Option.isNone ∧
      t.desk = (t₀.desk.serve (served.map (Bid.mk g))).2 := by
  obtain ⟨hbids, served, hperm, hphases, hdesk⟩ :=
    Traffic.exists_served_of_follow hindexed hcalls hmoves hover
  have hrs : t.calls.map Call.reservation = rs := by
    have hmap : t.calls.map Call.reservation = (t.calls.map Call.bid).map Bid.reservation := by
      rw [List.map_map]
      rfl
    rw [hmap, hbids, List.map_map]
    exact List.map_id rs
  have hserved : served.map Call.bid = (served.map Call.reservation).map (Bid.mk g) := by
    rw [List.map_map]
    refine List.map_congr_left (fun c hc => ?_)
    have hmem := List.mem_map_of_mem (f := Call.bid) (hperm.mem_iff.1 hc)
    rw [hbids] at hmem
    obtain ⟨r, -, hr⟩ := List.mem_map.1 hmem
    rw [Function.comp_apply, ← hr]
    cases hr
    rfl
  refine ⟨served.map Call.reservation, ?_, ?_, ?_⟩
  · have hsame := hperm.map Call.reservation
    rwa [hrs] at hsame
  · have hcount : t.takenCount = (served.map Call.phase).countP (fun p => p == .finished none) := by
      rw [List.countP_map]
      exact (hperm.countP_eq _).symm
    rw [hcount, hphases, List.countP_map, hserved]
    refine List.countP_congr (fun a _ => ?_)
    cases a <;> simp
  · rw [← hserved]
    exact hdesk.symm

/-- **Reservations asked for at the same time** are taken as if they were asked for one after the
other in some order. -/
theorem Desk.exists_serve_reserveTogether {d : Desk} (h : d.ledger.IsIndexed) (g : Ident)
    (rs : List Reservation) :
    ∃ served : List Reservation, served.Perm rs ∧
      (d.reserveTogether g rs).1 = (d.serve (served.map (Bid.mk g))).1.countP Option.isNone ∧
      (d.reserveTogether g rs).2 = (d.serve (served.map (Bid.mk g))).2 := by
  let t₀ := Traffic.ofCalls d (rs.map (fun r => { group := g, reservation := r }))
  have hcalls : t₀.calls = (rs.map (Bid.mk g)).map Bid.call := by
    rw [List.map_map]
    rfl
  obtain ⟨moves, hmoves⟩ := t₀.exists_follow_run
  exact Traffic.exists_served_reservations h hcalls hmoves t₀.isOver_run

end Booking
