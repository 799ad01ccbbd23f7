import Booking.Proofs.Desk.Booked
/-!
# How entries get into the log

While calls come, move and are abandoned and the ledger is changed from elsewhere, the log gets one
entry for each reservation that is imported and one for each call that is taken, in the order in which
this happens, and no other; and nothing takes an entry away or changes it. What was taken stays
visible: the group of the call goes on listing the resource, and the entry is among its user's in the
group (`Traffic.log_keeps_entries`).
-/
namespace Booking

/-- An entry that was made in the log. -/
structure Traffic.Entry where
  /-- The number of the call that made the entry; no call makes an imported one. -/
  call? : Option Nat
  reservation : Reservation
deriving DecidableEq, Repr

/-- The reservation that the event imports. -/
def Traffic.Event.imported? : Traffic.Event → Option Reservation
  | .change c => c.reservation?
  | _ => none

/-- The entry that is made when the event happens: that of an imported reservation, or that of a call
which is answered without a refusal by this very step. -/
def Traffic.entry? (t : Traffic) : Traffic.Event → Option Traffic.Entry
  | .change c => c.reservation?.map (fun r => ⟨none, r⟩)
  | .step i =>
    if t.answer? i = none ∧ (t.happen (.step i)).answer? i = some none then
      t.calls[i]?.map (fun c => ⟨some i, c.reservation⟩)
    else none
  | .call _ | .abandon _ => none

/-- The entries that are made while the events happen, in their order. -/
def Traffic.entries (t : Traffic) : List Traffic.Event → List Traffic.Entry
  | [] => []
  | e :: es => (t.entry? e).toList ++ (t.happen e).entries es

/-! ## Answers -/

section

variable {t t' : Traffic} {i j : Nat} {c : Call}

theorem Traffic.Step.answer?_of_ne (h : t.Step i c t') (hj : j ≠ i) :
    t'.answer? j = t.answer? j := by
  obtain ⟨phase, hcalls, -⟩ := h.exists_move
  rw [Traffic.answer?_congr hcalls, t.answer?_move_of_ne phase hj]

/-- **A step that answers its call without a refusal adds the call's reservation to the log**, and no
other step changes the desk. An answer that was given stays. -/
theorem Traffic.Step.answer?_cases (h : t.Step i c t') (hc : t.calls[i]? = some c) :
    (t.answer? i = none ∧ t'.answer? i = some none ∧
      t'.desk = t.desk.apply (.reservation c.reservation)) ∨
    (t'.desk = t.desk ∧ (t'.answer? i = t.answer? i ∨
      (t.answer? i = none ∧ ∃ refusal, t'.answer? i = some (some refusal)))) := by
  have hold : t.answer? i = c.phase.answer? := Traffic.answer?_eq hc
  have hnew (phase : Call.Phase) : (t.move i phase).answer? i = phase.answer? :=
    Traffic.answer?_move hc phase
  cases h with
  | enter lock hp => exact .inl ⟨by rw [hold, hp]; rfl, hnew (.settled lock none), rfl⟩
  | refuse refusal hp => exact .inr ⟨rfl, .inr ⟨by rw [hold, hp]; rfl, refusal, hnew _⟩⟩
  | discard lock refusal hp => exact .inr ⟨rfl, .inr ⟨by rw [hold, hp]; rfl, refusal, hnew _⟩⟩
  | take hp =>
    obtain ⟨lock, hcalls, hdesk, -⟩ := t.takeHandle_spec i c.user
    refine .inr ⟨hdesk, .inl ?_⟩
    rw [Traffic.answer?_congr hcalls, hnew, hold, hp]
    rfl
  | check hp | acquire _ hp | decide _ hp | release _ _ hp | drop _ _ hp =>
    refine .inr ⟨rfl, .inl ?_⟩
    rw [hnew, hold, hp]
    rfl
  | leave refusal hp =>
    refine .inr ⟨rfl, .inl ?_⟩
    rw [hold, hp]
    exact hnew (.finished refusal)

/-- Only its own step answers a call. -/
theorem Traffic.answer?_happen_of_ne {e : Traffic.Event} (h : e ≠ .step j) :
    (t.happen e).answer? j = t.answer? j := by
  cases e with
  | change c => rfl
  | call b => exact t.answer?_happen_call b j
  | step i =>
    rcases t.happen_step_cases i with heq | ⟨c, -, hstep⟩
    · rw [heq]
    · exact hstep.answer?_of_ne (by rintro rfl; exact h rfl)
  | abandon i =>
    rcases t.happen_abandon_cases i with heq | ⟨c, hc, hw, heq⟩
    · rw [heq]
    · rw [heq]
      by_cases hj : j = i
      · subst hj
        rw [Traffic.answer?_move hc, Traffic.answer?_eq hc, Call.Phase.answer?_of_isWaiting hw]
        rfl
      · exact t.answer?_move_of_ne _ hj

theorem Traffic.answer?_happen_of_eq_some {refusal : Option Refusal}
    (h : t.answer? j = some refusal) (e : Traffic.Event) :
    (t.happen e).answer? j = some refusal := by
  by_cases he : e = .step j
  · subst he
    rcases t.happen_step_cases j with heq | ⟨c, hc, hstep⟩
    · rw [heq, h]
    · rcases hstep.answer?_cases hc with ⟨hnone, -⟩ | ⟨-, hsame | ⟨hnone, -⟩⟩
      · rw [h] at hnone
        cases hnone
      · rw [hsame, h]
      · rw [h] at hnone
        cases hnone
  · rw [Traffic.answer?_happen_of_ne he, h]

theorem Traffic.answer?_after_of_eq_some {refusal : Option Refusal}
    (h : t.answer? j = some refusal) (es : List Traffic.Event) :
    (t.after es).answer? j = some refusal :=
  List.foldlRecOn (motive := fun t' => t'.answer? j = some refusal) es Traffic.happen h
    (fun _ h e _ => Traffic.answer?_happen_of_eq_some h e)

/-- A call stays at its number and goes on asking for the same bid. -/
theorem Traffic.bid_happen {b : Bid} (h : t.calls[j]?.map Call.bid = some b)
    (e : Traffic.Event) : (t.happen e).calls[j]?.map Call.bid = some b := by
  cases e with
  | change c => exact h
  | call b' =>
    obtain ⟨c, hc, hb⟩ := Option.map_eq_some_iff.1 h
    simp only [Traffic.happen]
    rw [List.getElem?_append_left (List.getElem?_eq_some_iff.1 hc).1, hc, Option.map_some, hb]
  | step i =>
    rcases t.happen_step_cases i with heq | ⟨c, -, hstep⟩
    · rw [heq, h]
    · obtain ⟨phase, hcalls, -⟩ := hstep.exists_move
      rw [hcalls, t.bid_getElem?_move, h]
  | abandon i =>
    rcases t.happen_abandon_cases i with heq | ⟨c, -, -, heq⟩
    · rw [heq, h]
    · rw [heq, t.bid_getElem?_move, h]

/-- A call is still there after anything, and asks for the same. -/
theorem Traffic.exists_call_after (hc : t.calls[j]? = some c) (es : List Traffic.Event) :
    ∃ c', (t.after es).calls[j]? = some c' ∧ c'.group = c.group ∧ c'.reservation = c.reservation := by
  have hbid : (t.after es).calls[j]?.map Call.bid = some c.bid :=
    List.foldlRecOn (motive := fun t' => t'.calls[j]?.map Call.bid = some c.bid) es Traffic.happen
      (by rw [hc]; rfl) (fun _ h e _ => Traffic.bid_happen h e)
  obtain ⟨c', hc', hsame⟩ := Option.map_eq_some_iff.1 hbid
  exact ⟨c', hc', congrArg Bid.group hsame, congrArg Bid.reservation hsame⟩

end

/-! ## One event -/

/-- **A step makes an entry for its call exactly if it answers the call without a refusal**, and leaves
the desk alone otherwise. -/
theorem Traffic.entry?_step_cases (t : Traffic) (i : Nat) :
    (∃ c, t.calls[i]? = some c ∧ t.answer? i = none ∧
      (t.happen (.step i)).answer? i = some none ∧
      t.entry? (.step i) = some ⟨some i, c.reservation⟩ ∧
      (t.happen (.step i)).desk = t.desk.apply (.reservation c.reservation)) ∨
    (t.entry? (.step i) = none ∧ (t.happen (.step i)).desk = t.desk ∧
      ¬ (t.answer? i = none ∧ (t.happen (.step i)).answer? i = some none)) := by
  have hother (hdesk : (t.happen (.step i)).desk = t.desk)
      (hanswer : ¬ (t.answer? i = none ∧ (t.happen (.step i)).answer? i = some none)) :
      t.entry? (.step i) = none ∧ (t.happen (.step i)).desk = t.desk ∧
        ¬ (t.answer? i = none ∧ (t.happen (.step i)).answer? i = some none) :=
    ⟨if_neg hanswer, hdesk, hanswer⟩
  rcases t.happen_step_cases i with heq | ⟨c, hc, hstep⟩
  · refine .inr (hother (by rw [heq]) (fun h => ?_))
    rw [heq, h.1] at h
    cases h.2
  · rcases hstep.answer?_cases hc with ⟨hnone, htaken, hdesk⟩ | ⟨hdesk, hanswer⟩
    · refine .inl ⟨c, hc, hnone, htaken, ?_, hdesk⟩
      rw [Traffic.entry?, if_pos ⟨hnone, htaken⟩, hc, Option.map_some]
    · refine .inr (hother hdesk (fun ⟨hnone, htaken⟩ => ?_))
      rcases hanswer with hsame | ⟨-, refusal, hrefused⟩
      · rw [htaken, hnone] at hsame
        cases hsame
      · rw [htaken] at hrefused
        cases hrefused

/-- What an event enters comes last in the log. -/
theorem Traffic.log_happen (t : Traffic) (e : Traffic.Event) :
    (t.happen e).desk.ledger.log.toList =
      t.desk.ledger.log.toList ++ (t.entry? e).toList.map Traffic.Entry.reservation := by
  cases e with
  | change c =>
    show ([c].foldl Ledger.apply t.desk.ledger).log.toList = _
    rw [Ledger.log_foldl, History.log, Traffic.entry?]
    cases h : c.reservation? <;> simp [h]
  | call b => simp [Traffic.happen, Traffic.entry?]
  | step i =>
    rcases t.entry?_step_cases i with ⟨c, -, -, -, hentry, hdesk⟩ | ⟨hentry, hdesk, -⟩
    · rw [hentry, hdesk]
      exact Array.toList_push
    · rw [hentry, hdesk]
      exact (List.append_nil _).symm
  | abandon i =>
    rcases t.happen_abandon_cases i with heq | ⟨c, -, -, heq⟩ <;>
      rw [heq] <;> exact (List.append_nil _).symm

/-- **An event makes an entry for a call exactly if the call is answered without a refusal by it.** -/
theorem Traffic.call?_entry?_iff {t : Traffic} {e : Traffic.Event} {j : Nat} :
    (t.entry? e).bind Traffic.Entry.call? = some j ↔
      t.answer? j = none ∧ (t.happen e).answer? j = some none := by
  have hother {e : Traffic.Event} (he : e ≠ .step j)
      (hentry : (t.entry? e).bind Traffic.Entry.call? ≠ some j) :
      (t.entry? e).bind Traffic.Entry.call? = some j ↔
        t.answer? j = none ∧ (t.happen e).answer? j = some none := by
    rw [Traffic.answer?_happen_of_ne he]
    refine iff_of_false hentry (fun ⟨hnone, htaken⟩ => ?_)
    rw [hnone] at htaken
    cases htaken
  cases e with
  | change c =>
    refine hother nofun ?_
    rw [Traffic.entry?]
    cases c.reservation? <;> exact nofun
  | call b => exact hother nofun nofun
  | abandon i => exact hother nofun nofun
  | step i =>
    by_cases hj : j = i
    · subst hj
      rcases t.entry?_step_cases j with ⟨c, -, hnone, htaken, hentry, -⟩ | ⟨hentry, -, hanswer⟩
      · rw [hentry]
        exact iff_of_true rfl ⟨hnone, htaken⟩
      · rw [hentry]
        exact iff_of_false nofun hanswer
    · refine hother (fun he => hj (Traffic.Event.step.inj he).symm) ?_
      rcases t.entry?_step_cases i with ⟨c, -, -, -, hentry, -⟩ | ⟨hentry, -⟩ <;> rw [hentry]
      · exact fun he => hj (Option.some.inj he).symm
      · exact nofun

/-! ## All events -/

/-- **The log is what it was, followed by the entries that were made.** -/
theorem Traffic.log_after : ∀ (es : List Traffic.Event) (t : Traffic),
    (t.after es).desk.ledger.log.toList =
      t.desk.ledger.log.toList ++ (t.entries es).map Traffic.Entry.reservation
  | [], t => (List.append_nil _).symm
  | e :: es, t => by
    show ((t.happen e).after es).desk.ledger.log.toList = _
    rw [Traffic.log_after es, t.log_happen, Traffic.entries, List.map_append, List.append_assoc]

theorem Traffic.imported_entries : ∀ (es : List Traffic.Event) (t : Traffic),
    ((t.entries es).filter (fun e => e.call?.isNone)).map Traffic.Entry.reservation =
      es.filterMap Traffic.Event.imported?
  | [], _ => rfl
  | e :: es, t => by
    have hfirst : ((t.entry? e).toList.filter (fun e => e.call?.isNone)).map
        Traffic.Entry.reservation = e.imported?.toList := by
      cases e with
      | change c =>
        rw [Traffic.entry?, Traffic.Event.imported?]
        cases c.reservation? <;> rfl
      | call b => rfl
      | abandon i => rfl
      | step i =>
        rcases t.entry?_step_cases i with ⟨c, -, -, -, hentry, -⟩ | ⟨hentry, -⟩ <;> rw [hentry] <;> rfl
    rw [Traffic.entries, List.filter_append, List.map_append, hfirst, Traffic.imported_entries es]
    cases h : e.imported? <;> simp [h]

theorem Traffic.taken_cons (t : Traffic) (e : Traffic.Event) (es : List Traffic.Event) :
    (t.entries (e :: es)).filterMap Traffic.Entry.call? =
      ((t.entry? e).bind Traffic.Entry.call?).toList ++
        ((t.happen e).entries es).filterMap Traffic.Entry.call? := by
  rw [Traffic.entries, List.filterMap_append]
  cases t.entry? e with
  | none => rfl
  | some entry => cases h : entry.call? <;> simp [h]

/-- **The calls that have made an entry are those that have been answered without a refusal since.** -/
theorem Traffic.mem_taken_iff {j : Nat} : ∀ {es : List Traffic.Event} {t : Traffic},
    j ∈ (t.entries es).filterMap Traffic.Entry.call? ↔
      t.answer? j = none ∧ (t.after es).answer? j = some none
  | [], t => by
    refine iff_of_false (by simp [Traffic.entries]) (fun ⟨hnone, htaken⟩ => ?_)
    rw [show (t.after []).answer? j = t.answer? j from rfl, hnone] at htaken
    cases htaken
  | e :: es, t => by
    have hrest : j ∈ ((t.happen e).entries es).filterMap Traffic.Entry.call? ↔
        (t.happen e).answer? j = none ∧ ((t.happen e).after es).answer? j = some none :=
      Traffic.mem_taken_iff
    rw [Traffic.taken_cons, List.mem_append, Option.mem_toList, Traffic.call?_entry?_iff, hrest]
    show _ ↔ t.answer? j = none ∧ ((t.happen e).after es).answer? j = some none
    constructor
    · rintro (⟨hnone, htaken⟩ | ⟨hnone, htaken⟩)
      · exact ⟨hnone, Traffic.answer?_after_of_eq_some htaken es⟩
      · refine ⟨?_, htaken⟩
        cases hold : t.answer? j with
        | none => rfl
        | some refusal =>
          rw [Traffic.answer?_happen_of_eq_some hold e] at hnone
          cases hnone
    · rintro ⟨hnone, htaken⟩
      cases hnext : (t.happen e).answer? j with
      | none => exact .inr ⟨rfl, htaken⟩
      | some refusal =>
        rw [Traffic.answer?_after_of_eq_some hnext es] at htaken
        exact .inl ⟨hnone, htaken⟩

/-- No call makes two entries. -/
theorem Traffic.nodup_taken : ∀ (es : List Traffic.Event) (t : Traffic),
    ((t.entries es).filterMap Traffic.Entry.call?).Nodup
  | [], _ => List.nodup_nil
  | e :: es, t => by
    rw [Traffic.taken_cons]
    cases h : (t.entry? e).bind Traffic.Entry.call? with
    | none => exact Traffic.nodup_taken es (t.happen e)
    | some j =>
      refine List.nodup_cons.2 ⟨fun hmem => ?_, Traffic.nodup_taken es (t.happen e)⟩
      have htaken := (Traffic.call?_entry?_iff.1 h).2
      rw [(Traffic.mem_taken_iff.1 hmem).1] at htaken
      cases htaken

/-- What a call enters is the reservation that it asks for. -/
theorem Traffic.exists_call_of_entry : ∀ {es : List Traffic.Event} {t : Traffic}
    {entry : Traffic.Entry}, entry ∈ t.entries es → ∀ j, entry.call? = some j →
      ∃ c, (t.after es).calls[j]? = some c ∧ c.reservation = entry.reservation
  | e :: es, t, entry, hmem, j, hj => by
    rw [Traffic.entries, List.mem_append, Option.mem_toList] at hmem
    rcases hmem with hmem | hmem
    · -- the call that makes its entry now asks for the same bid to the end
      cases e with
      | change c =>
        obtain ⟨r, -, rfl⟩ := Option.map_eq_some_iff.1 hmem
        cases hj
      | call b => cases hmem
      | abandon i => cases hmem
      | step i =>
        rcases t.entry?_step_cases i with ⟨c, hc, -, -, hentry, -⟩ | ⟨hentry, -⟩
        · rw [hentry] at hmem
          cases hmem
          cases hj
          obtain ⟨c', hc', -, hsame⟩ := Traffic.exists_call_after hc (.step j :: es)
          exact ⟨c', hc', hsame⟩
        · rw [hentry] at hmem
          cases hmem
    · exact Traffic.exists_call_of_entry hmem j hj

/-- The reservation of a call that has been answered without a refusal since is in the log. -/
theorem Traffic.mem_log_of_taken {t : Traffic} {es : List Traffic.Event} {j : Nat} {c : Call}
    (hnone : t.answer? j = none) (hc : (t.after es).calls[j]? = some c)
    (ha : c.phase.answer? = some none) :
    c.reservation ∈ (t.after es).desk.ledger.log.toList := by
  have htaken : (t.after es).answer? j = some none := by rw [Traffic.answer?_eq hc, ha]
  obtain ⟨entry, hentry, hj⟩ := List.mem_filterMap.1 (Traffic.mem_taken_iff.2 ⟨hnone, htaken⟩)
  obtain ⟨c', hc', hsame⟩ := Traffic.exists_call_of_entry hentry j hj
  rw [hc] at hc'
  cases hc'
  rw [Traffic.log_after, hsame]
  exact List.mem_append_right _ (List.mem_map_of_mem hentry)

/-! ## What stays true of a taken call -/

/-- **The span of the call is in order** once it has been checked, **and its group lists the resource**
once it has decided to take its bid. -/
def Call.IsSound (d : Desk) (c : Call) : Prop :=
  let isValid := Desk.spanRefusal? d.maxSpan c.reservation.start c.reservation.stop = none
  match c.phase with
  | .checked | .waiting _ | .holding _ => isValid
  | .decided _ none | .settled _ none | .released _ none | .leaving none | .finished none =>
    isValid ∧ d.ledger.lists c.group c.reservation.resource = true
  | _ => True

section

variable {t t' : Traffic} {i : Nat} {c : Call}

theorem Call.IsSound.changed {d : Desk} (h : c.IsSound d) (cs : List Ledger.Change) :
    c.IsSound (d.changed cs) := by
  have hgrows : d.ledger.Grows (d.changed cs).ledger := Ledger.grows_foldl cs d.ledger
  unfold Call.IsSound at h ⊢
  split <;> rename_i hp <;> simp only [hp] at h
  all_goals first | exact h | exact ⟨h.1, hgrows.lists h.2⟩

theorem Call.IsSound.of_answer {d : Desk} (h : c.IsSound d) (ha : c.phase.answer? = some none) :
    Desk.spanRefusal? d.maxSpan c.reservation.start c.reservation.stop = none ∧
      d.ledger.lists c.group c.reservation.resource = true := by
  unfold Call.IsSound at h
  cases hp : c.phase with
  | settled | released | leaving | finished =>
    rw [hp] at h ha
    cases ha
    exact h
  | arrived | checked | waiting | holding | decided | abandoned =>
    rw [hp] at ha
    cases ha

/-- What holds of all calls still does after a move, if it does of the call that moves. -/
theorem Traffic.forall_calls_of_move {P : Call → Prop} {phase : Call.Phase}
    (h : ∀ c ∈ t.calls, P c) (hc : t.calls[i]? = some c)
    (hcalls : t'.calls = (t.move i phase).calls) (hP : P { c with phase }) :
    ∀ c ∈ t'.calls, P c := by
  intro c' hmem
  rw [hcalls] at hmem
  obtain ⟨j, hj⟩ := List.mem_iff_getElem?.1 hmem
  rcases Traffic.calls_move_cases hc hj with ⟨-, rfl⟩ | ⟨-, hj⟩
  · exact hP
  · exact h c' (List.mem_of_getElem? hj)

/-- **Every step keeps the calls sound.** -/
theorem Traffic.isSound_step (h : ∀ c ∈ t.calls, c.IsSound t.desk) (hc : t.calls[i]? = some c)
    (hstep : t.Step i c t') : ∀ c ∈ t'.calls, c.IsSound t'.desk := by
  have hold : c.IsSound t.desk := h c (List.mem_of_getElem? hc)
  unfold Call.IsSound at hold
  cases hstep with
  | refuse refusal hp hspan => exact Traffic.forall_calls_of_move h hc rfl trivial
  | check hp hspan => exact Traffic.forall_calls_of_move h hc rfl hspan
  | take hp =>
    obtain ⟨lock, hcalls, hdesk, -⟩ := t.takeHandle_spec i c.user
    rw [hp] at hold
    rw [hdesk]
    exact Traffic.forall_calls_of_move h hc hcalls hold
  | acquire lock hp =>
    rw [hp] at hold
    exact Traffic.forall_calls_of_move h hc rfl hold
  | decide lock hp =>
    rw [hp] at hold
    refine Traffic.forall_calls_of_move h hc rfl ?_
    cases hr : t.desk.ledger.refusal? c.group c.reservation with
    | none => exact ⟨hold, ((Ledger.refusal?_eq_none_iff _ _ _).1 hr).1⟩
    | some refusal => trivial
  | discard lock refusal hp => exact Traffic.forall_calls_of_move h hc rfl trivial
  | enter lock hp =>
    rw [hp] at hold
    have hsettled : ∀ c ∈ (t.move i (.settled lock none)).calls, c.IsSound t.desk :=
      Traffic.forall_calls_of_move h hc rfl hold
    exact fun c' hmem => (hsettled c' hmem).changed [.reservation c.reservation]
  | release lock refusal hp | drop lock refusal hp | leave refusal hp =>
    rw [hp] at hold
    refine Traffic.forall_calls_of_move h hc rfl ?_
    cases refusal with
    | none => exact hold
    | some refusal => trivial

theorem Traffic.isSound_happen (h : ∀ c ∈ t.calls, c.IsSound t.desk) (e : Traffic.Event) :
    ∀ c ∈ (t.happen e).calls, c.IsSound (t.happen e).desk := by
  cases e with
  | change change => exact fun c hmem => (h c hmem).changed [change]
  | call b =>
    intro c hmem
    rcases List.mem_append.1 hmem with hmem | hmem
    · exact h c hmem
    · rw [List.mem_singleton.1 hmem]
      trivial
  | step i =>
    rcases t.happen_step_cases i with heq | ⟨c, hc, hstep⟩
    · rw [heq]
      exact h
    · exact Traffic.isSound_step h hc hstep
  | abandon i =>
    rcases t.happen_abandon_cases i with heq | ⟨c, hc, -, heq⟩
    · rw [heq]
      exact h
    · rw [heq]
      exact Traffic.forall_calls_of_move h hc rfl trivial

theorem Traffic.isSound_after (h : ∀ c ∈ t.calls, c.IsSound t.desk) (es : List Traffic.Event) :
    ∀ c ∈ (t.after es).calls, c.IsSound (t.after es).desk :=
  List.foldlRecOn (motive := fun t' => ∀ c ∈ t'.calls, c.IsSound t'.desk) es Traffic.happen h
    (fun _ h e _ => Traffic.isSound_happen h e)

end

/-! ## The log of a desk -/

theorem Traffic.after_append (t : Traffic) (es es' : List Traffic.Event) :
    t.after (es ++ es') = (t.after es).after es' :=
  List.foldl_append

/-- **The log keeps what it had and gets what is imported and what is taken, and nothing else.** Let
anything happen to a desk without calls, and then anything more. The log before is a prefix of the log
after; this is the log that the desk began with, followed by the entries that were made, in their
order. These are the imported reservations, each one once and in order, and one reservation for each
call that is answered without a refusal: the one that it asks for. And whichever call had been taken
before, its span is in order, its group lists its resource, and its reservation is among those of its
user in the group. -/
theorem Traffic.log_keeps_entries (cs : List Ledger.Change) (ms : Int)
    (before after : List Traffic.Event) :
    let start := Traffic.ofCalls ((Desk.ofLedger (Ledger.ofChanges cs)).withMaxSpan ms) []
    let t := start.after before
    let t' := t.after after
    let entries := start.entries (before ++ after)
    let taken := entries.filterMap Traffic.Entry.call?
    t.desk.ledger.log.toList <+: t'.desk.ledger.log.toList ∧
    t'.desk.ledger.log.toList =
      (Ledger.ofChanges cs).log.toList ++ entries.map Traffic.Entry.reservation ∧
    (entries.filter (fun e => e.call?.isNone)).map Traffic.Entry.reservation =
      (before ++ after).filterMap Traffic.Event.imported? ∧
    (taken.Nodup ∧ ∀ i, i ∈ taken ↔ t'.answer? i = some none) ∧
    (∀ e ∈ entries, ∀ i, e.call? = some i →
      ∃ c, t'.calls[i]? = some c ∧ c.reservation = e.reservation) ∧
    ∀ (i : Nat) (c : Call), t.calls[i]? = some c → c.phase.answer? = some none →
      let r := c.reservation
      (r.start < r.stop ∧ Desk.earliest ≤ r.start ∧ r.stop ≤ Desk.latest ∧
        r.stop - r.start ≤ min ms Desk.widestSpan) ∧
      (∃ group, t'.desk.ledger.group? c.group = some group ∧ r.resource ∈ group.resources) ∧
      r ∈ t'.desk.ledger.reservationsFor r.user c.group := by
  intro start t t' entries taken
  have hrun : t' = start.after (before ++ after) := (start.after_append before after).symm
  have hlog : t'.desk.ledger.log.toList =
      (Ledger.ofChanges cs).log.toList ++ entries.map Traffic.Entry.reservation := by
    rw [hrun, Traffic.log_after]
    rfl
  have hmem : ∀ i, i ∈ taken ↔ t'.answer? i = some none := by
    intro i
    rw [Traffic.mem_taken_iff, ← hrun]
    exact and_iff_right rfl
  refine ⟨?_, hlog, Traffic.imported_entries _ start, ⟨Traffic.nodup_taken _ start, hmem⟩,
    fun e he i hi => ?_, fun i c hc ha => ?_⟩
  · rw [Traffic.log_after after t]
    exact List.prefix_append _ _
  · rw [hrun]
    exact Traffic.exists_call_of_entry he i hi
  intro r
  -- the call is still there, and still taken
  obtain ⟨c', hc', hgroup, hreservation⟩ := Traffic.exists_call_after hc after
  have ha' : c'.phase.answer? = some none := by
    rw [← Traffic.answer?_eq hc']
    exact Traffic.answer?_after_of_eq_some (by rw [Traffic.answer?_eq hc, ha]) after
  rw [show t.after after = t' from rfl, hrun] at hc'
  have hentered := Traffic.mem_log_of_taken rfl hc' ha'
  have hsound := Traffic.isSound_after (t := start) nofun _ c' (List.mem_of_getElem? hc')
  obtain ⟨hspan, hlists⟩ := hsound.of_answer ha'
  rw [hreservation] at hentered hspan
  rw [hgroup, hreservation] at hlists
  have hmax : t'.desk.maxSpan = min ms Desk.widestSpan := by
    obtain ⟨changes, hchanges⟩ := start.exists_changed_after (before ++ after)
    rw [hrun, hchanges]
    rfl
  have hindexed : t'.desk.ledger.IsIndexed := by
    rw [hrun]
    exact Traffic.isIndexed_after (Ledger.isIndexed_ofChanges cs) _
  rw [← hrun] at hentered hspan hlists
  rw [hmax, Desk.spanRefusal?_eq_none_iff] at hspan
  refine ⟨hspan, Ledger.lists_eq_true_iff.1 hlists, ?_⟩
  rw [Ledger.reservationsFor_eq hindexed, List.mem_filter, hlists, beq_self_eq_true]
  exact ⟨hentered, rfl⟩

/-- A night is taken by a call, and another one is imported. -/
def Traffic.takenAndImported : List Traffic.Event :=
  .call (.night (.ofNat 4)) :: List.replicate 8 (.step 0) ++
    [.change (.reservation (Bid.night (.ofNat 6)).reservation)]

/-- The group is registered again without its spot, and gets a second one. The first user's next call is
rejected, and another user's call is taken. -/
def Traffic.registeredAgain : List Traffic.Event :=
  [.change (.group { id := .ofNat 1, name := "Second" }), .change (.resource (.ofNat 1) (.ofNat 7)),
    .call (.night (.ofNat 4)), .call (.night (.ofNat 5))] ++
    List.replicate 8 (.step 2) ++ List.replicate 8 (.step 1)

/-- A desk for nights, with an entry of a user to begin with. -/
def Traffic.nights : Traffic :=
  Traffic.ofCalls ((Desk.ofLedger (Ledger.ofChanges (Ledger.parking ++
    [.reservation (Bid.night (.ofNat 8)).reservation]))).withMaxSpan 43200000) []

theorem Traffic.log_keeps_entries_registeredAgain :
    ∃ t t', Traffic.nights.after Traffic.takenAndImported = t ∧
      t.after Traffic.registeredAgain = t' ∧
      t.calls.map Call.phase = [.finished none] ∧
      t'.calls.map Call.phase =
        [.finished none, .finished (some (.rejected (.ofNat 3))), .finished none] ∧
      t'.desk.ledger.log.toList =
        [8, 4, 6, 5].map (fun user => (Bid.night (.ofNat user)).reservation) ∧
      ∃ group, t'.desk.ledger.group? (.ofNat 1) = some group ∧ .ofNat 2 ∈ group.resources ∧
        (Bid.night (.ofNat 4)).reservation ∈
          t'.desk.ledger.reservationsFor (.ofNat 4) (.ofNat 1) := by
  obtain ⟨-, hlog, -, -, -, hkept⟩ := Traffic.log_keeps_entries (Ledger.parking ++
    [.reservation (Bid.night (.ofNat 8)).reservation]) 43200000 Traffic.takenAndImported
    Traffic.registeredAgain
  obtain ⟨c, hc, ha, hgroup, hreservation⟩ :
      ∃ c, (Traffic.nights.after Traffic.takenAndImported).calls[0]? = some c ∧
        c.phase.answer? = some none ∧ c.group = .ofNat 1 ∧
        c.reservation = (Bid.night (.ofNat 4)).reservation :=
    ⟨{ (Bid.night (.ofNat 4)).call with phase := .finished none }, by decide +kernel, rfl, rfl, rfl⟩
  obtain ⟨-, ⟨group, hknown, hlisted⟩, hvisible⟩ := hkept 0 c hc ha
  rw [hgroup] at hknown hvisible
  rw [hreservation] at hlisted hvisible
  refine ⟨_, _, rfl, rfl, by decide +kernel, by decide +kernel, hlog.trans ?_, group, hknown,
    hlisted, hvisible⟩
  decide +kernel

end Booking
