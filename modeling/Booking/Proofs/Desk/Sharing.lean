import Booking.Proofs.Desk.Booked
import Booking.Proofs.Desk.Limit
/-!
# Groups that share resources

A reservation counts in every group that lists its resource, but a bid is held only to the rules of
the group that it goes through. So a rule's limit holds for the user's reservations in its group as
far as these are made through groups that guard it: groups that list all of its group's resources
and have a rule that is no laxer (`Traffic.used_le_limit_of_guards`). Through a group that lists only
some of the resources the limit can be passed, even under an equal rule
(`Traffic.exists_used_gt_limit`).
-/
namespace Booking

/-! ## Counted bids -/

/-- The bids taken that the rule counts among the user's reservations in the group. -/
def Desk.counted (d : Desk) (bs : List Bid) (rule : Rule) (user g : Ident) : List Bid :=
  (d.taken bs).filter (fun b => d.ledger.countsIn rule user g b.reservation)

theorem Desk.countsIn_serve (d : Desk) (bs : List Bid) (rule : Rule) (user g : Ident) :
    (d.serve bs).2.ledger.countsIn rule user g = d.ledger.countsIn rule user g := by
  funext r
  rw [Ledger.countsIn, Ledger.countsIn, Desk.lists_serve]

theorem Desk.used_serve {d : Desk} (h : d.ledger.IsIndexed) (bs : List Bid) (rule : Rule)
    (user g : Ident) :
    (d.serve bs).2.ledger.used rule user g =
      d.ledger.used rule user g + (d.counted bs rule user g).length := by
  rw [Ledger.used_eq_countP (Desk.isIndexed_serve bs h), Ledger.used_eq_countP h, Desk.log_serve,
    Desk.countsIn_serve, List.countP_append, List.countP_map, Desk.counted,
    ← List.countP_eq_length_filter]
  rfl

/-! ## Guards -/

/-- **Whoever books through `h` is held to the rule of `g`**: `h` lists what `g` lists, and has a rule
that counts what the rule counts and allows no more. -/
def Ledger.Guards (l : Ledger) (h g : Ident) (rule : Rule) : Prop :=
  (∀ resource, l.lists g resource = true → l.lists h resource = true) ∧
    ∃ rule' ∈ l.rulesFor h, rule'.limit ≤ rule.limit ∧
      ∀ r, rule.counts r = true → rule'.counts r = true

theorem Ledger.guards_self {l : Ledger} {g : Ident} {rule : Rule} (hr : rule ∈ l.rulesFor g) :
    l.Guards g g rule :=
  ⟨fun _ h => h, rule, hr, Nat.le_refl _, fun _ h => h⟩

/-- A taken bid finds some of each limit left that its group guards. -/
theorem Desk.used_lt_of_guards {d : Desk} (h : d.ledger.IsIndexed) {b : Bid} {g : Ident}
    {rule : Rule} (hg : d.ledger.Guards b.group g rule) (ht : (d.answer b).1 = none) :
    d.ledger.used rule b.reservation.user g < rule.limit := by
  obtain ⟨hlists, rule', hrule', hlimit, hcounts⟩ := hg
  have hroom := ((Desk.of_taken h ht).2 rule' hrule').2
  have hle : d.ledger.used rule b.reservation.user g ≤
      d.ledger.used rule' b.reservation.user b.group := by
    rw [Ledger.used_eq_countP h, Ledger.used_eq_countP h]
    refine List.countP_mono_left (fun r _ hr => ?_)
    simp only [Ledger.countsIn, Bool.and_eq_true] at hr ⊢
    exact ⟨hcounts r hr.1, hr.2.1, hlists _ hr.2.2⟩
  omega

/-- **Each counted bid through a guarding group comes after fewer than the limit**, of those counted
before it whatever group they went through. -/
theorem Desk.used_add_length_lt {d : Desk} (h : d.ledger.IsIndexed) {bs pre post : List Bid}
    {b : Bid} {user g : Ident} {rule : Rule} (hs : d.counted bs rule user g = pre ++ b :: post)
    (hg : d.ledger.Guards b.group g rule) :
    d.ledger.used rule user g + pre.length < rule.limit := by
  obtain ⟨pre', rest, htaken, hpre, hrest⟩ := List.filter_eq_append_iff.1 hs
  obtain ⟨skipped, post', hrest', hskipped, hb, -⟩ := List.filter_eq_cons_iff.1 hrest
  rw [hrest', ← List.append_assoc] at htaken
  obtain ⟨before, hbefore, ht⟩ := Desk.exists_serve_of_taken bs htaken
  have hcounted : d.counted before rule user g = pre := by
    rw [Desk.counted, hbefore, List.filter_append, hpre,
      List.filter_eq_nil_iff.2 hskipped, List.append_nil]
  have hguards : (d.serve before).2.ledger.Guards b.group g rule := by
    obtain ⟨-, hrules, -⟩ := Desk.serve_keeps before d
    simpa only [Ledger.Guards, Desk.lists_serve, hrules] using hg
  have hlt := Desk.used_lt_of_guards (Desk.isIndexed_serve before h) hguards ht
  have huser : b.reservation.user = user := by
    simp only [Ledger.countsIn, Bool.and_eq_true, beq_iff_eq] at hb
    exact hb.2.1
  rwa [huser, Desk.used_serve h, hcounted] at hlt

/-! ## Calls in flight -/

/-- **A limit holds for what is booked through groups that guard it.** Let a desk start with an empty
log, and let any calls come to it, move and be abandoned. The log has the reservations of the calls
that were taken. Of those that the rule counts for the user in its group, through whatever groups
they were made, each one made through a guarding group comes after fewer than `rule.limit` others. So
there are no more than `rule.limit` if all of them were made through guarding groups, of which the
rule's own group is one. -/
theorem Traffic.used_le_limit_of_guards (cs : List Ledger.Change) (maxSpan : Int)
    (es : List Traffic.Event) (user g : Ident) (rule : Rule)
    (hlog : (Ledger.ofChanges cs).log = #[]) (hes : ∀ c, .change c ∉ es)
    (hr : rule ∈ (Ledger.ofChanges cs).rulesFor g) :
    let l := Ledger.ofChanges cs
    let t := (Traffic.ofCalls { ledger := l, maxSpan } []).after es
    ∃ (order : List Nat) (booked : List Bid),
      (order.Nodup ∧ (∀ j, j ∈ order ↔ t.answer? j = some none) ∧
        order.map (fun j => t.calls[j]?.map Call.bid) = booked.map some ∧
        t.desk.ledger.log.toList = booked.map Bid.reservation) ∧
      let used := t.desk.ledger.used rule user g
      let counted := booked.filter (fun b => l.countsIn rule user g b.reservation)
      used = counted.length ∧
      (∀ pre b post, counted = pre ++ b :: post → l.Guards b.group g rule →
        pre.length < rule.limit) ∧
      ((∀ b ∈ counted, l.Guards b.group g rule) → used ≤ rule.limit) ∧
      l.Guards g g rule := by
  intro l t
  let d : Desk := { ledger := l, maxSpan }
  have hd : d.ledger.IsIndexed := Ledger.isIndexed_ofChanges cs
  have hnone : d.ledger.used rule user g = 0 := by
    rw [Ledger.used_eq_countP hd, show d.ledger.log = #[] from hlog]
    rfl
  obtain ⟨order, booked, h⟩ := Traffic.exists_isBooked hd hes
  have hcounted : d.counted booked rule user g =
      booked.filter (fun b => l.countsIn rule user g b.reservation) := by
    rw [Desk.counted, h.taken]
  refine ⟨order, booked, ⟨h.nodup, h.mem, h.bids, ?_⟩, ?_⟩
  · rw [← h.desk, Desk.log_serve, h.taken, show d.ledger.log = #[] from hlog]
    rfl
  intro used counted
  have hused : used = counted.length := by
    show t.desk.ledger.used rule user g = counted.length
    rw [← h.desk, Desk.used_serve hd, hnone, hcounted, Nat.zero_add]
  have hroom : ∀ pre b post, counted = pre ++ b :: post → l.Guards b.group g rule →
      pre.length < rule.limit := by
    intro pre b post hs hg
    have hlt := Desk.used_add_length_lt hd (hcounted.trans hs) hg
    rwa [hnone, Nat.zero_add] at hlt
  refine ⟨hused, hroom, fun hall => ?_, Ledger.guards_self hr⟩
  have hle : counted.countP (fun _ => true) ≤ rule.limit := by
    refine countP_le_of_forall_prefix (fun pre b post hs => ?_)
    rw [List.countP_true]
    exact hroom pre b post hs (hall b (by rw [hs]; simp))
  rwa [List.countP_true, ← hused] at hle

/-! ## A garage and a street -/

/-- A garage with two spots, one of which is on the street, too; each of the two groups has one night
for each user. -/
def Ledger.garageAndStreet : List Ledger.Change :=
  [.group { id := .ofNat 1, name := "Garage", resources := [.ofNat 2, .ofNat 7] },
    .group { id := .ofNat 6, name := "Street", resources := [.ofNat 2] },
    .rule .oneNight, .rule { Rule.oneNight with id := .ofNat 8, group := .ofNat 6 }]

/-- The spot that only the garage has, on the night of the fifth. -/
def Bid.inGarage : Bid :=
  { group := .ofNat 1,
    reservation :=
      { id := .ofNat 20, user := .ofNat 4, resource := .ofNat 7, start := 1672945200000,
        stop := 1672988400000 } }

/-- The spot on the street, on the night of the sixth. -/
def Bid.onStreet : Bid :=
  { group := .ofNat 6,
    reservation :=
      { id := .ofNat 21, user := .ofNat 4, resource := .ofNat 2, start := 1673031600000,
        stop := 1673074800000 } }

/-- The night on the street comes first; the call for the garage finds the limit used up by it. -/
def Traffic.streetFirst : List Traffic.Event :=
  [.call .onStreet, .call .inGarage, .step 1, .step 1, .abandon 1] ++ List.replicate 8 (.step 0) ++
    .call .inGarage :: List.replicate 8 (.step 2)

def Traffic.garageFirst : List Traffic.Event :=
  .call .inGarage :: List.replicate 8 (.step 0) ++ .call .onStreet :: List.replicate 8 (.step 1)

theorem Traffic.used_le_limit_of_guards_garage :
    (Ledger.ofChanges Ledger.garageAndStreet).log = #[] ∧
    (∀ c, .change c ∉ Traffic.streetFirst) ∧
    Rule.oneNight ∈ (Ledger.ofChanges Ledger.garageAndStreet).rulesFor (.ofNat 1) ∧
    ∃ t, (Traffic.ofCalls { ledger := Ledger.ofChanges Ledger.garageAndStreet } []).after
        Traffic.streetFirst = t ∧
      t.calls.map Call.phase =
        [.finished none, .abandoned, .finished (some (.rejected (.ofNat 3)))] ∧
      t.desk.ledger.used .oneNight (.ofNat 4) (.ofNat 1) = 1 ∧
      ∃ booked : List Bid, t.desk.ledger.log.toList = booked.map Bid.reservation ∧
        t.desk.ledger.used .oneNight (.ofNat 4) (.ofNat 1) =
          (booked.filter (fun b => (Ledger.ofChanges Ledger.garageAndStreet).countsIn .oneNight
            (.ofNat 4) (.ofNat 1) b.reservation)).length := by
  have hes : ∀ c, Traffic.Event.change c ∉ Traffic.streetFirst := by
    simp [Traffic.streetFirst]
  have hr : Rule.oneNight ∈ (Ledger.ofChanges Ledger.garageAndStreet).rulesFor (.ofNat 1) :=
    List.mem_singleton.2 rfl
  obtain ⟨order, booked, hbooked, hcounted⟩ := Traffic.used_le_limit_of_guards
    Ledger.garageAndStreet Desk.widestSpan Traffic.streetFirst (.ofNat 4) (.ofNat 1) .oneNight rfl
    hes hr
  exact ⟨rfl, hes, hr, _, rfl, by decide +kernel, by decide +kernel, booked, hbooked.2.2.2,
    hcounted.1⟩

/-- **Through a group that does not list all resources a limit can be passed**: the street's rule does
not see the night in the garage. -/
theorem Traffic.exists_used_gt_limit :
    ¬ ∀ (cs : List Ledger.Change) (maxSpan : Int) (es : List Traffic.Event) (user g : Ident)
      (rule : Rule),
      (Ledger.ofChanges cs).log = #[] → (∀ c, .change c ∉ es) →
        ((Ledger.ofChanges cs).group? g).isSome → rule ∈ (Ledger.ofChanges cs).rulesFor g →
        (∃ s, Pattern.parse s = .ok rule.window) →
        ((Traffic.ofCalls { ledger := Ledger.ofChanges cs, maxSpan } []).after es).desk.ledger.used
          rule user g ≤ rule.limit := by
  intro h
  have hle := h Ledger.garageAndStreet Desk.widestSpan Traffic.garageFirst (.ofNat 4) (.ofNat 1)
    .oneNight rfl (by simp [Traffic.garageFirst]) rfl (List.mem_singleton.2 rfl)
    ⟨"0 19-7 * * *", by rfl⟩
  revert hle
  decide +kernel

end Booking
