import Booking.Proofs.Desk.Serial
import Booking.Proofs.Ledger.Growth
/-!
# Everything that can happen

While calls are in flight, new ones come, some are abandoned, and the ledger is changed from
elsewhere. Of all this a ledger only grows. So what is rejected once is rejected ever after, whenever
and among whatever other calls it is asked for again (`Traffic.rejection_lasts`).
-/
namespace Booking

inductive Traffic.Event where
  /-- A change without any check, such as an imported reservation. -/
  | change (c : Ledger.Change)
  | call (b : Bid)
  | step (i : Nat)
  | abandon (i : Nat)

/-- The traffic after the event. A call that cannot move, or be abandoned, stays as it is. -/
def Traffic.happen (t : Traffic) : Traffic.Event → Traffic
  | .change c => { t with desk := t.desk.apply c }
  | .call b => { t with calls := t.calls ++ [b.call] }
  | .step i => (t.step? i).getD t
  | .abandon i => (t.abandon? i).getD t

def Traffic.after (t : Traffic) (es : List Traffic.Event) : Traffic := es.foldl Traffic.happen t

theorem Traffic.happen_step_cases (t : Traffic) (i : Nat) :
    t.happen (.step i) = t ∨
      ∃ c, t.calls[i]? = some c ∧ t.Step i c (t.happen (.step i)) := by
  simp only [Traffic.happen]
  cases h : t.step? i with
  | none => exact .inl rfl
  | some t' => exact .inr (Traffic.step_of_step? h)

theorem Traffic.happen_abandon_cases (t : Traffic) (i : Nat) :
    t.happen (.abandon i) = t ∨
      ∃ c, t.calls[i]? = some c ∧ c.phase.isWaiting = true ∧
        t.happen (.abandon i) = t.move i .abandoned := by
  simp only [Traffic.happen, Traffic.abandon?]
  cases hc : t.calls[i]? with
  | none => exact .inl rfl
  | some c =>
    cases hw : c.phase.isWaiting with
    | false => exact .inl (by simp [hw])
    | true => exact .inr ⟨c, rfl, hw, by simp [hw]⟩

/-- A call is one of those that were there, or the new one. -/
theorem Traffic.happen_call_cases {t : Traffic} {b : Bid} {j : Nat} {c : Call}
    (h : (t.happen (.call b)).calls[j]? = some c) :
    t.calls[j]? = some c ∨ (j = t.calls.length ∧ c = b.call) := by
  simp only [Traffic.happen] at h
  rw [List.getElem?_append] at h
  split at h
  · exact .inl h
  · rw [List.getElem?_singleton] at h
    split at h
    · cases h
      exact .inr ⟨by omega, rfl⟩
    · cases h

/-! ## Only growth -/

theorem Traffic.Step.exists_changed {t t' : Traffic} {i : Nat} {c : Call} (h : t.Step i c t') :
    ∃ cs, t'.desk = t.desk.changed cs := by
  cases h with
  | enter lock hp => exact ⟨[.reservation c.reservation], rfl⟩
  | take hp =>
    obtain ⟨lock, -, hdesk, -⟩ := t.takeHandle_spec i c.user
    exact ⟨[], hdesk⟩
  | _ => exact ⟨[], rfl⟩

/-- **What happens changes the ledger by some list of changes**, and the desk by nothing else. -/
theorem Traffic.exists_changed_happen (t : Traffic) (e : Traffic.Event) :
    ∃ cs, (t.happen e).desk = t.desk.changed cs := by
  cases e with
  | change c => exact ⟨[c], rfl⟩
  | call b => exact ⟨[], rfl⟩
  | step i =>
    rcases t.happen_step_cases i with h | ⟨c, -, hstep⟩
    · exact ⟨[], by rw [h]; rfl⟩
    · exact hstep.exists_changed
  | abandon i =>
    rcases t.happen_abandon_cases i with h | ⟨c, -, -, h⟩ <;> exact ⟨[], by rw [h]; rfl⟩

theorem Traffic.exists_changed_after (t : Traffic) (es : List Traffic.Event) :
    ∃ cs, (t.after es).desk = t.desk.changed cs := by
  refine List.foldlRecOn (motive := fun t' => ∃ cs, t'.desk = t.desk.changed cs) es Traffic.happen
    ⟨[], rfl⟩ ?_
  rintro t' ⟨cs, hcs⟩ e -
  obtain ⟨cs', hcs'⟩ := t'.exists_changed_happen e
  exact ⟨cs ++ cs', by rw [hcs', hcs, Desk.changed_append]⟩

theorem Traffic.grows_after (t : Traffic) (es : List Traffic.Event) :
    t.desk.ledger.Grows (t.after es).desk.ledger := by
  obtain ⟨cs, hcs⟩ := t.exists_changed_after es
  rw [hcs]
  exact Ledger.grows_foldl cs t.desk.ledger

theorem Traffic.isIndexed_after {t : Traffic} (h : t.desk.ledger.IsIndexed)
    (es : List Traffic.Event) : (t.after es).desk.ledger.IsIndexed := by
  obtain ⟨cs, hcs⟩ := t.exists_changed_after es
  rw [hcs]
  exact Desk.isIndexed_changed h cs

/-! ## Rejected bids -/

def Desk.Rejects (d : Desk) (b : Bid) : Prop := ∃ id, (d.answer b).1 = some (.rejected id)

theorem Desk.Rejects.changed {d : Desk} {b : Bid} (h : d.Rejects b) (hd : d.ledger.IsIndexed)
    (cs : List Ledger.Change) : (d.changed cs).Rejects b := by
  obtain ⟨id, h⟩ := h
  have hgrows : d.ledger.Grows (d.changed cs).ledger := Ledger.grows_foldl cs d.ledger
  rw [Desk.fst_answer, Desk.refusal?_eq_rejected_iff] at h
  obtain ⟨hspan, hlists, hreject⟩ := h
  obtain ⟨i, hi⟩ := Ledger.exists_rejectedAt hreject
  obtain ⟨j, -, -, rule, -, -, -, hreject', -⟩ :=
    hi.of_grows hgrows hd (Desk.isIndexed_changed hd cs)
  refine ⟨rule.id, ?_⟩
  rw [Desk.fst_answer, Desk.refusal?_eq_rejected_iff]
  exact ⟨hspan, hgrows.lists hlists, hreject'⟩

theorem Desk.Rejects.after {t : Traffic} {b : Bid} (h : t.desk.Rejects b)
    (ht : t.desk.ledger.IsIndexed) (es : List Traffic.Event) : (t.after es).desk.Rejects b := by
  obtain ⟨cs, hcs⟩ := t.exists_changed_after es
  rw [hcs]
  exact h.changed ht cs

/-! ## Calls in flight -/

/-- **The refusal of a call that has decided is a rejection if `d` rejects its bid, and only if `d'`
rejects it.** The span of a call that has not is in order, once it is checked. -/
def Call.IsFaithful (d d' : Desk) (c : Call) : Prop :=
  match c.phase with
  | .arrived | .abandoned => True
  | .checked | .waiting _ | .holding _ =>
    Desk.spanRefusal? d'.maxSpan c.reservation.start c.reservation.stop = none
  | .decided _ refusal | .settled _ refusal | .released _ refusal | .leaving refusal
  | .finished refusal =>
    (d.Rejects c.bid → ∃ id, refusal = some (.rejected id)) ∧
      ((∃ id, refusal = some (.rejected id)) → d'.Rejects c.bid)

/-- The calls from `n` on came after the desk was `d`. -/
structure Traffic.IsFaithful (d : Desk) (n : Nat) (t : Traffic) : Prop where
  grown : ∃ cs, t.desk = d.changed cs
  calls : ∀ (j : Nat) (c : Call), n ≤ j → t.calls[j]? = some c → c.IsFaithful d t.desk

section

variable {d : Desk} {n i : Nat} {t t' : Traffic} {c : Call}

theorem Call.IsFaithful.changed {d' : Desk} (h : c.IsFaithful d d') (hd : d'.ledger.IsIndexed)
    (cs : List Ledger.Change) : c.IsFaithful d (d'.changed cs) := by
  unfold Call.IsFaithful at h ⊢
  cases hp : c.phase with
  | arrived | abandoned => trivial
  | checked | waiting | holding =>
    rw [hp] at h
    exact h
  | decided | settled | released | leaving | finished =>
    rw [hp] at h
    exact ⟨h.1, fun hr => (h.2 hr).changed hd cs⟩

theorem Traffic.IsFaithful.change (h : t.IsFaithful d n) (hd : d.ledger.IsIndexed)
    (c : Ledger.Change) : Traffic.IsFaithful d n { t with desk := t.desk.apply c } := by
  obtain ⟨cs, hcs⟩ := h.grown
  have ht : t.desk.ledger.IsIndexed := by
    rw [hcs]
    exact Desk.isIndexed_changed hd cs
  refine ⟨⟨cs ++ [c], ?_⟩, fun j c' hj hc' => (h.calls j c' hj hc').changed ht [c]⟩
  rw [Desk.changed_append, ← hcs]
  rfl

theorem Traffic.IsFaithful.move (h : t.IsFaithful d n) {old phase : Call.Phase}
    (hc : t.calls[i]? = some c) (hp : c.phase = old)
    (hcalls : t'.calls = (t.move i phase).calls) (hdesk : t'.desk = t.desk)
    (hphase : Call.IsFaithful d t.desk { c with phase := old } →
      Call.IsFaithful d t.desk { c with phase }) : t'.IsFaithful d n where
  grown := by
    rw [hdesk]
    exact h.grown
  calls j c' hj hc' := by
    subst hp
    rw [hcalls] at hc'
    rw [hdesk]
    rcases Traffic.calls_move_cases hc hc' with ⟨rfl, rfl⟩ | ⟨-, hc'⟩
    · exact hphase (h.calls j c hj hc)
    · exact h.calls j c' hj hc'

/-- What the desk has to say of a bid now is faithful. -/
theorem Traffic.IsFaithful.refusal? (h : t.IsFaithful d n) (hd : d.ledger.IsIndexed) (b : Bid) :
    (d.Rejects b → ∃ id, t.desk.refusal? b.group b.reservation = some (.rejected id)) ∧
      ((∃ id, t.desk.refusal? b.group b.reservation = some (.rejected id)) → t.desk.Rejects b) := by
  obtain ⟨cs, hcs⟩ := h.grown
  rw [← Desk.fst_answer]
  refine ⟨fun hr => ?_, id⟩
  rw [hcs]
  exact hr.changed hd cs

/-- **Every step keeps the calls faithful.** -/
theorem Traffic.IsFaithful.step (h : t.IsFaithful d n) (hd : d.ledger.IsIndexed)
    (hc : t.calls[i]? = some c) (hstep : t.Step i c t') : t'.IsFaithful d n := by
  have hnow := h.refusal? hd c.bid
  cases hstep with
  | refuse refusal hp hspan =>
    have hrefusal : t.desk.refusal? c.group c.reservation = some refusal := by
      rw [Desk.refusal?, hspan, Option.some_or]
    exact h.move hc hp rfl rfl (fun _ => hrefusal ▸ hnow)
  | check hp hspan => exact h.move hc hp rfl rfl (fun _ => hspan)
  | take hp =>
    obtain ⟨lock, hcalls, hdesk, -⟩ := t.takeHandle_spec i c.user
    exact h.move hc hp hcalls hdesk id
  | acquire lock hp _ => exact h.move hc hp rfl rfl id
  | decide lock hp =>
    refine h.move hc hp rfl rfl (fun hspan => ?_)
    have hrefusal : t.desk.refusal? c.group c.reservation =
        t.desk.ledger.refusal? c.group c.reservation := by
      rw [Desk.refusal?, show Desk.spanRefusal? _ _ _ = none from hspan, Option.none_or]
    exact hrefusal ▸ hnow
  | enter lock hp =>
    have hmove : (t.move i (.settled lock none)).IsFaithful d n := h.move hc hp rfl rfl id
    exact hmove.change hd (.reservation c.reservation)
  | discard lock refusal hp | release lock refusal hp | drop lock refusal hp | leave refusal hp =>
    exact h.move hc hp rfl rfl id

theorem Traffic.IsFaithful.happen (h : t.IsFaithful d n) (hd : d.ledger.IsIndexed)
    (e : Traffic.Event) : (t.happen e).IsFaithful d n := by
  cases e with
  | change c => exact h.change hd c
  | call b =>
    refine ⟨h.grown, fun j c hj hc => ?_⟩
    rcases Traffic.happen_call_cases hc with hc | ⟨-, rfl⟩
    · exact h.calls j c hj hc
    · trivial
  | step i =>
    rcases t.happen_step_cases i with heq | ⟨c, hc, hstep⟩
    · rw [heq]
      exact h
    · exact h.step hd hc hstep
  | abandon i =>
    rcases t.happen_abandon_cases i with heq | ⟨c, hc, -, heq⟩
    · rw [heq]
      exact h
    · rw [heq]
      exact h.move hc rfl rfl rfl (fun _ => trivial)

end

/-- Whatever the calls that are in flight already, those that come later are faithful. -/
theorem Traffic.isFaithful_after (t : Traffic) (ht : t.desk.ledger.IsIndexed)
    (es : List Traffic.Event) : (t.after es).IsFaithful t.desk t.calls.length := by
  refine List.foldlRecOn es Traffic.happen ⟨⟨[], rfl⟩, fun j c hj hc => ?_⟩
    (fun t' h e _ => h.happen ht e)
  rw [List.getElem?_eq_none hj] at hc
  cases hc

theorem Call.IsFaithful.of_answer {d d' : Desk} {c : Call} (h : c.IsFaithful d d')
    {refusal : Option Refusal} (ha : c.phase.answer? = some refusal) :
    (d.Rejects c.bid → ∃ id, refusal = some (.rejected id)) ∧
      ((∃ id, refusal = some (.rejected id)) → d'.Rejects c.bid) := by
  unfold Call.IsFaithful at h
  cases hp : c.phase with
  | settled | released | leaving | finished =>
    rw [hp] at h ha
    cases ha
    exact h
  | arrived | checked | waiting | holding | decided | abandoned =>
    rw [hp] at ha
    cases ha

/-- **What is rejected once is rejected ever after.** Let anything happen to a desk, and then anything
more. A booking that was rejected by the rule at position `i` is rejected by that rule or one before
it, while the rules only get more; and a group that was known is not unknown again. The desk rejects
the bids that it has rejected a call, and a bid that it rejects, it will reject; and no call that
comes later with such a bid is answered otherwise. -/
theorem Traffic.rejection_lasts (cs : List Ledger.Change) (maxSpan : Int)
    (before after : List Traffic.Event) :
    let t := (Traffic.ofCalls { ledger := Ledger.ofChanges cs, maxSpan } []).after before
    let t' := t.after after
    (∀ user g start stop,
      (∀ id, t.desk.ledger.admission user g start stop = .rejected id →
        ∃ i, t.desk.ledger.RejectedAt user g start stop i) ∧
      (∀ i, t.desk.ledger.RejectedAt user g start stop i →
        t.desk.ledger.rulesFor g <+: t'.desk.ledger.rulesFor g ∧
          ∃ j ≤ i, t'.desk.ledger.RejectedAt user g start stop j) ∧
      (t.desk.ledger.admission user g start stop ≠ .unknownGroup →
        ∀ user start stop, t'.desk.ledger.admission user g start stop ≠ .unknownGroup)) ∧
    (∀ c ∈ t.calls, ∀ id, c.phase.answer? = some (some (.rejected id)) → t.desk.Rejects c.bid) ∧
    ∀ b, t.desk.Rejects b → t'.desk.Rejects b ∧
      ∀ j c refusal, t.calls.length ≤ j → t'.calls[j]? = some c → c.bid = b →
        c.phase.answer? = some refusal → ∃ id, refusal = some (.rejected id) := by
  intro t t'
  have hstart := Ledger.isIndexed_ofChanges cs
  have hl : t.desk.ledger.IsIndexed := Traffic.isIndexed_after hstart before
  have hl' : t'.desk.ledger.IsIndexed := Traffic.isIndexed_after hl after
  have hgrows : t.desk.ledger.Grows t'.desk.ledger := t.grows_after after
  refine ⟨fun user g start stop => ⟨fun id => Ledger.exists_rejectedAt,
    fun i hi => ⟨hgrows.rules g, hi.of_grows hgrows hl hl'⟩, hgrows.admission_ne_unknownGroup⟩,
    fun c hc id ha => ?_, fun b hb => ⟨hb.after hl after, fun j c refusal hj hc hbid ha => ?_⟩⟩
  · -- of a desk without calls every call comes later
    obtain ⟨j, hj⟩ := List.mem_iff_getElem?.1 hc
    have hfaithful := Traffic.isFaithful_after
      (Traffic.ofCalls { ledger := Ledger.ofChanges cs, maxSpan } []) hstart before
    exact ((hfaithful.calls j c (Nat.zero_le j) hj).of_answer ha).2 ⟨id, rfl⟩
  · have hfaithful := t.isFaithful_after hl after
    rw [← hbid] at hb
    exact ((hfaithful.calls j c hj hc).of_answer ha).1 hb

/-- Two calls of a user for one night, one after the other. -/
def Traffic.twoCalls : List Traffic.Event :=
  [.call (.night (.ofNat 4)), .call (.night (.ofNat 4))] ++
    List.replicate 8 (.step 0) ++ List.replicate 5 (.step 1)

/-- The spot is let through another group, too, and a stricter rule comes behind the old one. Of two
more calls for the night the first is abandoned. -/
def Traffic.twoMoreCalls : List Traffic.Event :=
  [.change (.group { id := .ofNat 6, name := "Street", resources := [.ofNat 2] }),
    .change (.rule { Rule.oneNight with id := .ofNat 9, limit := 0 }),
    .call (.night (.ofNat 4)), .step 2, .step 2, .step 1, .abandon 2,
    .call (.night (.ofNat 4))] ++ List.replicate 8 (.step 3)

theorem Traffic.rejection_lasts_parking :
    let t := (Traffic.ofCalls { ledger := Ledger.ofChanges Ledger.parking } []).after Traffic.twoCalls
    let t' := t.after Traffic.twoMoreCalls
    t.answer? 1 = some (some (.rejected (.ofNat 3))) ∧
    t'.calls.map Call.phase = [.finished none, .released 1 (some (.rejected (.ofNat 3))),
      .abandoned, .finished (some (.rejected (.ofNat 3)))] ∧
    t'.desk.Rejects (.night (.ofNat 4)) := by
  intro t t'
  have hphases : t'.calls.map Call.phase = [.finished none,
      .released 1 (some (.rejected (.ofNat 3))), .abandoned,
      .finished (some (.rejected (.ofNat 3)))] := by decide +kernel
  have hc : ∃ c ∈ t.calls, c.bid = .night (.ofNat 4) ∧
      c.phase.answer? = some (some (.rejected (.ofNat 3))) := by decide +kernel
  obtain ⟨c, hmem, hbid, ha⟩ := hc
  obtain ⟨-, hcalls, hlasts⟩ :=
    Traffic.rejection_lasts Ledger.parking Desk.widestSpan Traffic.twoCalls
      Traffic.twoMoreCalls
  have hrejects := hcalls c hmem _ ha
  rw [hbid] at hrejects
  exact ⟨by decide +kernel, hphases, (hlasts _ hrejects).1⟩

end Booking
