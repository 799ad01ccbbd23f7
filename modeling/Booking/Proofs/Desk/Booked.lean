import Booking.Proofs.Desk.Events
/-!
# What has been booked

As long as calls come, move and are abandoned, and nothing else happens, the log has the reservations
of the calls that were taken, in the order in which they entered them. Their bids would all be taken
in this order one after the other, too, and leave the same desk (`Traffic.exists_isBooked`). This
order has no refused and no abandoned calls in it, so it does not matter how far the others are.
-/
namespace Booking

/-! ## The calls that were taken -/

/-- **The calls of `order` are those that were taken, and `bs` are their bids**: the desk takes all of
these one after the other, too, and is then what it is now. -/
structure Traffic.IsBooked (d : Desk) (t : Traffic) (order : List Nat) (bs : List Bid) : Prop where
  locked : t.IsLocked
  nodup : order.Nodup
  mem : ∀ j, j ∈ order ↔ t.answer? j = some none
  bids : order.map (fun j => t.calls[j]?.map Call.bid) = bs.map some
  taken : d.taken bs = bs
  desk : (d.serve bs).2 = t.desk
  right : ∀ c ∈ t.calls, c.phase ≠ .abandoned → c.IsRight t.desk

section

variable {d : Desk} {t t' : Traffic} {order : List Nat} {bs : List Bid} {i : Nat} {c : Call}

theorem Traffic.answer?_congr (h : t'.calls = t.calls) : t'.answer? = t.answer? := by
  funext j
  rw [Traffic.answer?, h, Traffic.answer?]

theorem Traffic.bid_getElem?_move (t : Traffic) (i : Nat) (phase : Call.Phase) (j : Nat) :
    (t.move i phase).calls[j]?.map Call.bid = t.calls[j]?.map Call.bid := by
  rw [← List.getElem?_map, ← List.getElem?_map, Traffic.map_bid_move]

/-- A move by which no call is taken. -/
theorem Traffic.IsBooked.move (h : t.IsBooked d order bs) {old phase : Call.Phase}
    (hc : t.calls[i]? = some c) (hp : c.phase = old) (hold : old ≠ .abandoned)
    (hcalls : t'.calls = (t.move i phase).calls) (hdesk : t'.desk = t.desk)
    (hlocked : t'.IsLocked) (hanswer : phase.answer? = some none ↔ old.answer? = some none)
    (hright : phase ≠ .abandoned → Call.IsRight t.desk { c with phase := old } →
      Call.IsRight t.desk { c with phase }) : t'.IsBooked d order bs where
  locked := hlocked
  nodup := h.nodup
  mem j := by
    rw [h.mem, Traffic.answer?_congr hcalls]
    by_cases hj : j = i
    · subst hj
      rw [Traffic.answer?_move hc, Traffic.answer?_eq hc, hp, hanswer]
    · rw [t.answer?_move_of_ne phase hj]
  bids := by
    rw [← h.bids, hcalls]
    exact List.map_congr_left (fun j _ => t.bid_getElem?_move i phase j)
  taken := h.taken
  desk := by rw [hdesk, h.desk]
  right c' hmem := by
    subst hp
    rw [hcalls] at hmem
    rw [hdesk]
    obtain ⟨j, hj⟩ := List.mem_iff_getElem?.1 hmem
    rcases Traffic.calls_move_cases hc hj with ⟨-, rfl⟩ | ⟨-, hj'⟩
    · exact fun hne => hright hne (h.right c (List.mem_of_getElem? hc) hold)
    · exact h.right c' (List.mem_of_getElem? hj')

/-- A call that has decided to take its bid is still right when it enters it. -/
theorem Traffic.IsBooked.enter (h : t.IsBooked d order bs) (hd : d.ledger.IsIndexed)
    (hc : t.calls[i]? = some c) {lock : Nat} (hp : c.phase = .decided lock none)
    (hcalls : t'.calls = (t.move i (.settled lock none)).calls)
    (hdesk : t'.desk = t.desk.apply (.reservation c.reservation)) (hlocked : t'.IsLocked) :
    t'.IsBooked d (order ++ [i]) (bs ++ [c.bid]) := by
  have hindexed : t.desk.ledger.IsIndexed := by
    rw [← h.desk]
    exact Desk.isIndexed_serve _ hd
  have hright : c.IsRight t.desk :=
    h.right c (List.mem_of_getElem? hc) (by rw [hp]; exact Call.Phase.noConfusion)
  rw [Call.IsRight, hp] at hright
  have ha : t.desk.answer c.bid = (none, t.desk.apply (.reservation c.reservation)) :=
    Desk.answer_of_none hright
  have hi : i ∉ order := by
    rw [h.mem, Traffic.answer?_eq hc, hp]
    simp [Call.Phase.answer?]
  refine ⟨hlocked, ?_, fun j => ?_, ?_, ?_, ?_, fun c' hmem hphase => ?_⟩
  · rw [List.nodup_append]
    refine ⟨h.nodup, List.pairwise_singleton _ i, fun a ha b hb hab => ?_⟩
    rw [List.mem_singleton.1 hb] at hab
    exact hi (hab ▸ ha)
  · rw [List.mem_append, List.mem_singleton, Traffic.answer?_congr hcalls]
    by_cases hj : j = i
    · subst hj
      rw [Traffic.answer?_move hc]
      exact iff_of_true (.inr rfl) rfl
    · rw [t.answer?_move_of_ne _ hj, ← h.mem]
      exact or_iff_left hj
  · rw [List.map_append, List.map_append, ← h.bids, hcalls]
    simp only [Traffic.bid_getElem?_move, List.map_cons, List.map_nil, hc, Option.map_some]
  · rw [Desk.taken_concat, h.taken, h.desk, ha, if_pos rfl]
  · rw [Desk.serve_concat, h.desk, ha, hdesk]
  · rw [hcalls] at hmem
    rw [hdesk]
    obtain ⟨j, hj⟩ := List.mem_iff_getElem?.1 hmem
    rcases Traffic.calls_move_cases hc hj with ⟨-, rfl⟩ | ⟨hji, hj'⟩
    · trivial
    · -- a call of the same user that holds its lock would be this call itself
      refine (h.right c' (List.mem_of_getElem? hj') hphase).apply hindexed (fun hheld hu => hji ?_)
      exact h.locked.eq_of_held hj' hc hu.symm hheld (by rw [hp]; rfl)

/-- **Every step keeps the log that of the taken calls**, with the call that moves as the last of them
if it enters its reservation. -/
theorem Traffic.IsBooked.step (h : t.IsBooked d order bs) (hd : d.ledger.IsIndexed)
    (hc : t.calls[i]? = some c) (hstep : t.Step i c t') :
    t'.IsBooked d order bs ∨ t'.IsBooked d (order ++ [i]) (bs ++ [c.bid]) := by
  have hlocked := h.locked.step hc hstep
  cases hstep with
  | refuse refusal hp hspan =>
    exact .inl (h.move hc hp (by simp) rfl rfl hlocked (by simp [Call.Phase.answer?])
      (fun _ _ => trivial))
  | check hp hspan =>
    exact .inl (h.move hc hp (by simp) rfl rfl hlocked Iff.rfl (fun _ _ => hspan))
  | take hp =>
    obtain ⟨lock, hcalls, hdesk, -⟩ := t.takeHandle_spec i c.user
    exact .inl (h.move hc hp (by simp) hcalls hdesk hlocked Iff.rfl (fun _ hspan => hspan))
  | acquire lock hp _ =>
    exact .inl (h.move hc hp (by simp) rfl rfl hlocked Iff.rfl (fun _ hspan => hspan))
  | decide lock hp =>
    refine .inl (h.move hc hp (by simp) rfl rfl hlocked Iff.rfl (fun _ hspan => ?_))
    show (Desk.spanRefusal? _ _ _).or _ = _
    rw [show Desk.spanRefusal? _ _ _ = none from hspan, Option.none_or]
  | discard lock refusal hp =>
    exact .inl (h.move hc hp (by simp) rfl rfl hlocked (by simp [Call.Phase.answer?])
      (fun _ _ => trivial))
  | enter lock hp => exact .inr (h.enter hd hc hp rfl rfl hlocked)
  | release lock refusal hp | drop lock refusal hp | leave refusal hp =>
    exact .inl (h.move hc hp (by simp) rfl rfl hlocked Iff.rfl (fun _ _ => trivial))

theorem Traffic.IsLocked.call (h : t.IsLocked) (b : Bid) : (t.happen (.call b)).IsLocked where
  current j c lock hj hh := by
    rcases Traffic.happen_call_cases hj with hj | ⟨-, rfl⟩
    · exact h.current j c lock hj hh
    · cases hh
  exclusive j k c c' lock hj hk hh hh' := by
    rcases Traffic.happen_call_cases hj with hj | ⟨-, rfl⟩
    · rcases Traffic.happen_call_cases hk with hk | ⟨-, rfl⟩
      · exact h.exclusive j k c c' lock hj hk hh hh'
      · cases hh'
    · cases hh

/-- A call that has just come has no answer. -/
theorem Traffic.answer?_happen_call (t : Traffic) (b : Bid) (j : Nat) :
    (t.happen (.call b)).answer? j = t.answer? j := by
  simp only [Traffic.answer?, Traffic.happen, List.getElem?_append]
  split
  · rfl
  · rename_i hj
    rw [List.getElem?_eq_none (Nat.le_of_not_lt hj), List.getElem?_singleton]
    split <;> rfl

theorem Traffic.IsBooked.call (h : t.IsBooked d order bs) (b : Bid) :
    (t.happen (.call b)).IsBooked d order bs where
  locked := h.locked.call b
  nodup := h.nodup
  mem j := by rw [h.mem, t.answer?_happen_call b j]
  bids := by
    rw [← h.bids]
    refine List.map_congr_left (fun j hj => ?_)
    obtain ⟨c, hc, -⟩ := Option.bind_eq_some_iff.1 ((h.mem j).1 hj)
    simp only [Traffic.happen]
    rw [List.getElem?_append_left (List.getElem?_eq_some_iff.1 hc).1]
  taken := h.taken
  desk := h.desk
  right c hmem := by
    rcases List.mem_append.1 hmem with hmem | hmem
    · exact h.right c hmem
    · rw [List.mem_singleton.1 hmem]
      exact fun _ => trivial

theorem Call.Phase.answer?_of_isWaiting {p : Call.Phase} (h : p.isWaiting = true) :
    p.answer? = none := by
  cases p with
  | arrived | checked | waiting | holding | decided | abandoned => rfl
  | settled | released | leaving | finished => cases h

theorem Traffic.IsBooked.abandon (h : t.IsBooked d order bs) (hc : t.calls[i]? = some c)
    (hw : c.phase.isWaiting = true) : (t.move i .abandoned).IsBooked d order bs := by
  have hlocked : (t.move i .abandoned).IsLocked := h.locked.move hc nofun nofun
  have hold : c.phase ≠ .abandoned := fun hp => by
    rw [hp] at hw
    cases hw
  refine h.move hc rfl hold rfl rfl hlocked ?_ (fun hne => absurd rfl hne)
  rw [Call.Phase.answer?_of_isWaiting hw]
  rfl

end

theorem Traffic.isBooked_nil (d : Desk) : (Traffic.ofCalls d []).IsBooked d [] [] where
  locked := Traffic.isLocked_of_arrived (fun c hc => by cases hc)
  nodup := List.nodup_nil
  mem j := by simp [Traffic.answer?, Traffic.ofCalls]
  bids := rfl
  taken := rfl
  desk := rfl
  right c hc := by cases hc

/-- **The log is that of the calls that were taken**, if nothing but calls happens. -/
theorem Traffic.exists_isBooked {d : Desk} (hd : d.ledger.IsIndexed) {es : List Traffic.Event}
    (hes : ∀ c, .change c ∉ es) :
    ∃ order bs, ((Traffic.ofCalls d []).after es).IsBooked d order bs := by
  refine List.foldlRecOn (motive := fun t => ∃ order bs, Traffic.IsBooked d t order bs) es
    Traffic.happen ⟨[], [], Traffic.isBooked_nil d⟩ ?_
  rintro t ⟨order, bs, h⟩ e he
  cases e with
  | change c => exact absurd he (hes c)
  | call b => exact ⟨order, bs, h.call b⟩
  | step i =>
    rcases t.happen_step_cases i with heq | ⟨c, hc, hstep⟩
    · exact ⟨order, bs, heq.symm ▸ h⟩
    · rcases h.step hd hc hstep with hsame | hmore
      · exact ⟨order, bs, hsame⟩
      · exact ⟨order ++ [i], bs ++ [c.bid], hmore⟩
  | abandon i =>
    rcases t.happen_abandon_cases i with heq | ⟨c, hc, hw, heq⟩
    · exact ⟨order, bs, heq.symm ▸ h⟩
    · exact ⟨order, bs, heq.symm ▸ h.abandon hc hw⟩

end Booking
