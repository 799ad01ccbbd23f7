import Booking.Proofs.Desk.Serve
import Booking.Recurrence.Reader
/-!
# Limits

How many bids of one user through one group a desk takes under a rule of the group. Each of them
finds some of the rule's limit left by those before it that the rule counts
(`Desk.countP_takenFor_le`). What the rule does not count is a reservation that its window accepts
for the midnight after its end only: of these there may be more than the limit
(`Desk.exists_takenFor_gt_limit`).
-/
namespace Booking

/-- A taken bid lies in its group, and every rule of the group has some of its limit left. -/
theorem Desk.of_taken {d : Desk} (h : d.ledger.IsIndexed) {b : Bid} (ht : (d.answer b).1 = none) :
    d.ledger.lists b.group b.reservation.resource = true ∧
      ∀ rule ∈ d.ledger.rulesFor b.group,
        rule.window.acceptsRange b.reservation.start b.reservation.stop = true ∧
          d.ledger.used rule b.reservation.user b.group < rule.limit := by
  rw [Desk.fst_answer, Desk.refusal?_eq_none_iff, Ledger.refusal?_eq_none_iff_used h] at ht
  exact ht.2

theorem Desk.used_le_used_answer {d : Desk} (h : d.ledger.IsIndexed) (b : Bid) (rule : Rule)
    (user g : Ident) :
    d.ledger.used rule user g ≤ (d.answer b).2.ledger.used rule user g := by
  rcases d.answer_cases b with ⟨refusal, -, ha⟩ | ⟨-, ha⟩
  · refine Nat.le_of_eq ?_
    rw [ha]
  · rw [ha]
    show _ ≤ (d.ledger.addReservation b.reservation).used rule user g
    rw [Ledger.used_addReservation h]
    exact Nat.le_add_right _ _

/-- A taken bid takes up one of each limit that counts it. -/
theorem Desk.used_answer_of_taken {d : Desk} (h : d.ledger.IsIndexed) {b : Bid}
    (ht : (d.answer b).1 = none) (rule : Rule) :
    (d.answer b).2.ledger.used rule b.reservation.user b.group =
      d.ledger.used rule b.reservation.user b.group +
        if rule.counts b.reservation = true then 1 else 0 := by
  have hlists := (Desk.of_taken h ht).1
  rw [Desk.fst_answer] at ht
  rw [Desk.answer_of_none ht]
  show (d.ledger.addReservation b.reservation).used rule _ _ = _
  rw [Ledger.used_addReservation h]
  simp [hlists]

/-- **Every taken bid finds some of the limit left** by what was used before the first bid and by
the counted ones among the bids taken before it. -/
theorem Desk.used_add_countP_lt (rule : Rule) (user g : Ident) : ∀ (bs : List Bid) {d : Desk},
    d.ledger.IsIndexed → rule ∈ d.ledger.rulesFor g →
      ∀ (pre : List Bid) (b : Bid) (post : List Bid), d.takenFor bs user g = pre ++ b :: post →
        rule.window.acceptsRange b.reservation.start b.reservation.stop = true ∧
          d.ledger.used rule user g + pre.countP (fun b => rule.counts b.reservation) < rule.limit
  | [], _, _, _, pre, b, post, hs => by cases pre <;> cases hs
  | b₀ :: bs, d, h, hr, pre, b, post, hs => by
    have ih := Desk.used_add_countP_lt rule user g bs (Desk.isIndexed_answer h b₀)
      (by rwa [Desk.rulesFor_answer])
    rw [Desk.takenFor_cons] at hs
    by_cases hm : (d.answer b₀).1 = none ∧ b₀.reservation.user = user ∧ b₀.group = g
    · -- the first bid is one of the user's: it is `b` itself, or the first one before `b`
      rw [if_pos hm, List.singleton_append] at hs
      obtain ⟨ht, rfl, rfl⟩ := hm
      cases pre with
      | nil =>
        simp only [List.nil_append, List.cons.injEq] at hs
        rw [← hs.1]
        exact (Desk.of_taken h ht).2 rule hr
      | cons p pre =>
        simp only [List.cons_append, List.cons.injEq] at hs
        obtain ⟨rfl, hs⟩ := hs
        obtain ⟨hb, hlt⟩ := ih pre b post hs
        rw [Desk.used_answer_of_taken h ht] at hlt
        refine ⟨hb, ?_⟩
        rw [List.countP_cons]
        omega
    · rw [if_neg hm, List.nil_append] at hs
      obtain ⟨hb, hlt⟩ := ih pre b post hs
      have := Desk.used_le_used_answer h b₀ rule user g
      exact ⟨hb, by omega⟩

/-- Where each element is preceded by fewer than `n` counted ones, at most `n` are counted. -/
theorem countP_le_of_forall_prefix {α : Type} {p : α → Bool} {n : Nat} {l : List α}
    (h : ∀ pre a post, l = pre ++ a :: post → pre.countP p < n) : l.countP p ≤ n := by
  rcases List.eq_nil_or_concat l with rfl | ⟨pre, a, hl⟩
  · simp
  · rw [List.concat_eq_append] at hl
    have := h pre a [] hl
    rw [hl, List.countP_append, List.countP_singleton]
    split <;> omega

/-- **A desk takes no more bids than a rule allows of those that the rule counts.** Whatever bids
it is asked in whatever order, each one of a user that it takes through the rule's group comes after
fewer than `rule.limit` counted ones of the same user and group; so no more than `rule.limit`
counted ones are taken, and no more than `rule.limit` at all if the window accepts no range but by
its two ends. -/
theorem Desk.countP_takenFor_le (cs : List Ledger.Change) (maxSpan : Int) (bs : List Bid)
    (user g : Ident) (rule : Rule) (hr : rule ∈ (Ledger.ofChanges cs).rulesFor g) :
    let mine := Desk.takenFor { ledger := Ledger.ofChanges cs, maxSpan } bs user g
    (∀ pre b post, mine = pre ++ b :: post →
      pre.countP (fun b => rule.counts b.reservation) < rule.limit) ∧
    mine.countP (fun b => rule.counts b.reservation) ≤ rule.limit ∧
    ((∀ start stop, rule.window.acceptsRange start stop = true →
        rule.window.accepts start = true ∧ rule.window.accepts stop = true) →
      mine.length ≤ rule.limit) := by
  intro mine
  have hmine := Desk.used_add_countP_lt rule user g bs
    (d := { ledger := Ledger.ofChanges cs, maxSpan }) (Ledger.isIndexed_ofChanges cs) hr
  have hroom : ∀ pre b post, mine = pre ++ b :: post →
      pre.countP (fun b => rule.counts b.reservation) < rule.limit := by
    intro pre b post hs
    have := (hmine pre b post hs).2
    omega
  have hle := countP_le_of_forall_prefix hroom
  refine ⟨hroom, hle, fun hw => ?_⟩
  have hall : ∀ b ∈ mine, rule.counts b.reservation = true := by
    intro b hb
    obtain ⟨pre, post, hs⟩ := List.append_of_mem hb
    simpa [Rule.counts] using hw _ _ (hmine pre b post hs).1
  rwa [List.countP_eq_length.2 hall] at hle

theorem Desk.countP_takenFor_parking :
    Rule.oneNight ∈ (Ledger.ofChanges Ledger.parking).rulesFor (.ofNat 1) ∧
    Desk.takenFor { ledger := Ledger.ofChanges Ledger.parking }
      [.late (.ofNat 4), .night (.ofNat 4), .late (.ofNat 4)] (.ofNat 4) (.ofNat 1) =
        [.late (.ofNat 4), .night (.ofNat 4)] ∧
    [Bid.late (.ofNat 4), .night (.ofNat 4)].countP
      (fun b => Rule.oneNight.counts b.reservation) ≤ 1 := by
  have hr : Rule.oneNight ∈ (Ledger.ofChanges Ledger.parking).rulesFor (.ofNat 1) :=
    List.mem_singleton.2 rfl
  have htaken : Desk.takenFor { ledger := Ledger.ofChanges Ledger.parking }
      [.late (.ofNat 4), .night (.ofNat 4), .late (.ofNat 4)] (.ofNat 4) (.ofNat 1) =
        [.late (.ofNat 4), .night (.ofNat 4)] := by
    decide +kernel
  have hle := (Desk.countP_takenFor_le Ledger.parking Desk.widestSpan
    [.late (.ofNat 4), .night (.ofNat 4), .late (.ofNat 4)] (.ofNat 4) (.ofNat 1)
    .oneNight hr).2.1
  rw [htaken] at hle
  exact ⟨hr, htaken, hle⟩

/-- **The limit does not bound the bids that are taken**: two bids that the rule does not count go
through one after the other under a limit of one. -/
theorem Desk.exists_takenFor_gt_limit :
    ¬ ∀ (cs : List Ledger.Change) (maxSpan : Int) (bs : List Bid) (user g : Ident) (rule : Rule),
      (Ledger.ofChanges cs).log = #[] → rule ∈ (Ledger.ofChanges cs).rulesFor g →
        (∃ s, Pattern.parse s = .ok rule.window) →
        (Desk.takenFor { ledger := Ledger.ofChanges cs, maxSpan } bs user g).length ≤
          rule.limit := by
  intro h
  have hle := h Ledger.parking Desk.widestSpan [.late (.ofNat 4), .late (.ofNat 4)]
    (.ofNat 4) (.ofNat 1) .oneNight rfl (List.mem_singleton.2 rfl) ⟨"0 19-7 * * *", by rfl⟩
  revert hle
  decide +kernel

end Booking
