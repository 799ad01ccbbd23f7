import Booking.Command.Answer
import Booking.Proofs.Desk.Serve
/-!
# Two commands on reservations

`reserve` takes the requests of a list one after the other at one desk, while `canReserve` builds a
ledger of its own and only asks it for an admission. The two agree
(`Request.reserve_agrees_with_canReserve`): the desk that has taken some of the requests is the desk
that is built with these among the reservations (`Request.Setup.snd_reserveEach_desk`).
-/
namespace Booking

/-! ## What an answer says -/

/-- The first value under the key, in an object. -/
def Json.member? (key : String) : Json → Option Json
  | .object ms => (Json.valuesOf key ms).head?
  | _ => none

def Json.flag? (key : String) (v : Json) : Option Bool :=
  match v.member? key with
  | some (.bool b) => some b
  | _ => none

def Json.text? (key : String) (v : Json) : Option String :=
  match v.member? key with
  | some (.string s) => some s
  | _ => none

section

variable (r : Reservation) (refusal : Option Refusal)

theorem Answer.id_ofOutcome : (Answer.ofOutcome (r, refusal)).text? "id" = some r.id.text := by
  cases refusal <;> rfl

theorem Answer.admitted_ofOutcome :
    (Answer.ofOutcome (r, refusal)).flag? "admitted" = some refusal.isNone := by
  cases refusal <;> rfl

theorem Answer.error_ofOutcome :
    (Answer.ofOutcome (r, refusal)).text? "error" = refusal.map Refusal.message := by
  cases refusal <;> rfl

end

theorem Answer.admitted_ofAdmission (a : Admission) :
    (Answer.ofAdmission a).flag? "admitted" = some a.isAdmitted := rfl

/-- The answer names a rule only if that rule rejects. -/
theorem Answer.eq_rejected_of_ruleId {a : Admission} {x : String}
    (h : (Answer.ofAdmission a).text? "ruleId" = some x) :
    ∃ rule, a = .rejected rule ∧ rule.text = x := by
  cases a with
  | rejected rule => exact ⟨rule, rfl, Option.some.inj h⟩
  | admitted => cases h
  | unknownGroup => cases h

/-! ## Requests that bring their identifiers -/

/-- The entry that is read as the reservation. -/
def Request.Entry.ofReservation (r : Reservation) : Request.Entry :=
  { id? := some r.id, user := r.user, resource := r.resource, start := r.start, stop := r.stop }

theorem Request.Entry.exists_reservations : ∀ {es : List Request.Entry},
    (∀ e ∈ es, e.id?.isSome) → ∃ rs : List Reservation, es = rs.map Request.Entry.ofReservation
  | [], _ => ⟨[], rfl⟩
  | e :: es, h => by
    obtain ⟨he, hes⟩ := List.forall_mem_cons.1 h
    obtain ⟨i, hi⟩ := Option.isSome_iff_exists.1 he
    obtain ⟨rs, rfl⟩ := Request.Entry.exists_reservations hes
    have hread : Request.Entry.ofReservation (e.toReservation i) = e := by
      rw [Request.Entry.toReservation, Request.Entry.ofReservation, hi, Option.getD_some, ← hi]
    exact ⟨e.toReservation i :: rs, by rw [List.map_cons, hread]⟩

/-- No identifier is given to an entry that has one. -/
theorem Request.Entry.toReservations_append (fresh : Nat → Ident) (first : Nat)
    (es : List Request.Entry) (rs : List Reservation) :
    Request.Entry.toReservations fresh first (es ++ rs.map Request.Entry.ofReservation) =
      Request.Entry.toReservations fresh first es ++ rs := by
  have hread : ∀ (q : Reservation × Nat), (Request.Entry.ofReservation q.1).toReservation
      (fresh (first + q.2)) = q.1 := fun _ => rfl
  rw [Request.Entry.toReservations, List.zipIdx_append, List.map_append, List.zipIdx_map,
    List.map_map]
  simp only [Function.comp_def, Prod.map, id_eq, hread, List.zipIdx_map_fst]
  rfl

theorem Request.Entry.toReservations_ofReservation (fresh : Nat → Ident) (first : Nat)
    (rs : List Reservation) :
    Request.Entry.toReservations fresh first (rs.map Request.Entry.ofReservation) = rs :=
  Request.Entry.toReservations_append fresh first [] rs

/-! ## The ledger of a request -/

/-- The desk at which the requests are taken. -/
def Request.Setup.desk (s : Request.Setup) (w : Surroundings) : Desk :=
  (Desk.ofLedger (s.ledger w.fresh)).withMaxSpan w.settings.maxSpan

/-- The setup with more reservations, which come last. -/
def Request.Setup.add (s : Request.Setup) (es : List Request.Entry) : Request.Setup :=
  { s with reservations := s.reservations ++ es }

theorem Settings.spanOf_le (value : Option String) : Settings.spanOf value ≤ Desk.widestSpan := by
  unfold Settings.spanOf
  split
  · exact Int.le_refl _
  · split
    · exact Int.min_le_right _ _
    · exact Int.le_refl _

/-- The settings allow no wider spans than every desk does. -/
theorem Request.Setup.maxSpan_desk (s : Request.Setup) (lookup : String → Option String) (now : Int)
    (fresh : Nat → Ident) :
    (s.desk { settings := .ofLookup lookup, now, fresh }).maxSpan =
      (Settings.ofLookup lookup).maxSpan :=
  Int.min_eq_left (Settings.spanOf_le _)

theorem Request.Setup.ledger_add (s : Request.Setup) (fresh : Nat → Ident)
    (rs : List Reservation) :
    (s.add (rs.map Request.Entry.ofReservation)).ledger fresh =
      (rs.map Ledger.Change.reservation).foldl Ledger.apply (s.ledger fresh) := by
  simp only [Request.Setup.ledger, Request.Setup.add, Request.Entry.toReservations_append,
    List.map_append, Ledger.ofChanges, List.foldl_append]

theorem Request.Setup.ledger_eq_of_ids {s : Request.Setup}
    (h : ∀ e ∈ s.reservations, e.id?.isSome) (fresh fresh' : Nat → Ident) :
    s.ledger fresh = s.ledger fresh' := by
  obtain ⟨rs, hrs⟩ := Request.Entry.exists_reservations h
  simp only [Request.Setup.ledger, hrs, Request.Entry.toReservations_ofReservation]

theorem Request.Setup.desk_add (s : Request.Setup) (w : Surroundings) (rs : List Reservation) :
    (s.add (rs.map Request.Entry.ofReservation)).desk w =
      (s.desk w).changed (rs.map Ledger.Change.reservation) := by
  rw [Request.Setup.desk, s.ledger_add]
  rfl

/-- **A group of the request is the first of its identifier**, with the resources it came with. -/
theorem Request.Setup.group?_ledger (s : Request.Setup) (fresh : Nat → Ident) (g : Ident) :
    (s.ledger fresh).group? g = s.groups.find? (fun group => group.id = g) := by
  rw [Request.Setup.ledger, Ledger.ofChanges, List.append_assoc, List.foldl_append]
  rw [Ledger.group?_foldl_of_keeps]
  · rw [← Ledger.ofChanges, Ledger.group?_ofChanges, History.group?_map_group]
  · intro c hc l
    rcases List.mem_append.1 hc with hc | hc <;> obtain ⟨_, -, rfl⟩ := List.mem_map.1 hc <;> rfl

theorem Request.Setup.lists_ledger_iff (s : Request.Setup) (fresh : Nat → Ident)
    (g resource : Ident) :
    (s.ledger fresh).lists g resource = true ↔
      ∃ group, s.groups.find? (fun group => group.id = g) = some group ∧
        resource ∈ group.resources := by
  rw [Ledger.lists_eq_true_iff, s.group?_ledger]

/-! ## One request after the other -/

/-- The requests of a list are bids through one group. -/
theorem Desk.reserveEach_eq_serve (g : Ident) : ∀ (rs : List Reservation) (d : Desk),
    d.reserveEach g rs =
      (rs.zip (d.serve (rs.map (Bid.mk g))).1, (d.serve (rs.map (Bid.mk g))).2)
  | [], _ => rfl
  | r :: rs, d => by
    unfold Desk.reserveEach
    rw [List.map_cons, Desk.serve, Desk.answer]
    cases d.reserve g r with
    | error refusal => simp [Desk.reserveEach_eq_serve g rs]
    | ok d' => simp [Desk.reserveEach_eq_serve g rs]

theorem Desk.map_fst_reserveEach (d : Desk) (g : Ident) (rs : List Reservation) :
    (d.reserveEach g rs).1.map Prod.fst = rs := by
  rw [Desk.reserveEach_eq_serve]
  exact List.map_fst_zip (Nat.le_of_eq (by rw [Desk.length_serve, List.length_map]))

/-- The reservations that were taken are added, in their order. -/
theorem Desk.snd_reserveEach (d : Desk) (g : Ident) (rs : List Reservation) :
    (d.reserveEach g rs).2 =
      d.changed (((d.reserveEach g rs).1.filter (fun q => q.2.isNone)).map
        (fun q => .reservation q.1)) := by
  rw [Desk.reserveEach_eq_serve, Desk.snd_serve, Desk.taken, List.zip_map_left, List.filter_map,
    List.map_map, List.map_map]
  rfl

theorem Desk.exists_reserveEach_append (d : Desk) (g : Ident) (rs₁ : List Reservation)
    (r : Reservation) (rs₂ : List Reservation) :
    ∃ rest, (d.reserveEach g (rs₁ ++ r :: rs₂)).1 =
      (d.reserveEach g rs₁).1 ++ (r, ((d.reserveEach g rs₁).2.answer ⟨g, r⟩).1) :: rest := by
  simp only [Desk.reserveEach_eq_serve, List.map_append, List.map_cons, Desk.serve_append,
    Desk.serve]
  rw [List.zip_append (by rw [Desk.length_serve, List.length_map]), List.zip_cons_cons]
  exact ⟨_, rfl⟩

/-- **The desk after some requests is the desk of a setup with those that were taken.** -/
theorem Request.Setup.snd_reserveEach_desk (s : Request.Setup) (w : Surroundings) (g : Ident)
    (rs : List Reservation) :
    ((s.desk w).reserveEach g rs).2 =
      (s.add (((((s.desk w).reserveEach g rs).1.filter (fun q => q.2.isNone)).map Prod.fst).map
        Request.Entry.ofReservation)).desk w := by
  rw [Request.Setup.desk_add, Desk.snd_reserveEach, List.map_map]
  rfl

/-! ## The two commands -/

/-- The requests that are admitted, as the results at their positions say. -/
def Request.admitted (es : List Request.Entry) (results : List Json) : List Request.Entry :=
  ((es.zip results).filter (fun q => q.2.flag? "admitted" = some true)).map Prod.fst

theorem Request.mem_of_mem_admitted {es : List Request.Entry} {results : List Json}
    {e : Request.Entry} (h : e ∈ Request.admitted es results) : e ∈ es := by
  obtain ⟨q, hq, rfl⟩ := List.mem_map.1 h
  exact (List.of_mem_zip (List.mem_filter.1 hq).1).1

theorem Request.admitted_cons (e : Request.Entry) (es : List Request.Entry) (result : Json)
    (results : List Json) :
    Request.admitted (e :: es) (result :: results) =
      (if result.flag? "admitted" = some true then [e] else []) ++ Request.admitted es results := by
  by_cases h : result.flag? "admitted" = some true <;> simp [Request.admitted, h]

theorem Request.admitted_ofOutcome (rest : List Json) :
    ∀ (outcomes : List (Reservation × Option Refusal)),
      Request.admitted ((outcomes.map Prod.fst).map Request.Entry.ofReservation)
          (outcomes.map Answer.ofOutcome ++ rest) =
        ((outcomes.filter (fun q => q.2.isNone)).map Prod.fst).map Request.Entry.ofReservation
  | [] => rfl
  | (r, refusal) :: outcomes => by
    have ih := Request.admitted_ofOutcome rest outcomes
    rw [List.map_cons, List.map_cons, List.map_cons, List.cons_append, Request.admitted_cons, ih,
      Answer.admitted_ofOutcome]
    cases refusal <;> rfl

/-- The results to some requests are those to the first of them, followed by what a setup with the
admitted ones among them says to the next. -/
theorem Request.Setup.exists_results_append (s : Request.Setup) (w : Surroundings) (g : Ident)
    (rs₁ : List Reservation) (r : Reservation) (rs₂ : List Reservation) :
    let results := ((s.desk w).reserveEach g (rs₁ ++ r :: rs₂)).1.map Answer.ofOutcome
    let s₁ := s.add (Request.admitted (rs₁.map Request.Entry.ofReservation) results)
    ∃ before rest, before.length = rs₁.length ∧
      results = before ++ Answer.ofOutcome (r, ((s₁.desk w).answer ⟨g, r⟩).1) :: rest := by
  intro results s₁
  let before := ((s.desk w).reserveEach g rs₁).1
  have hbefore : before.map Prod.fst = rs₁ := (s.desk w).map_fst_reserveEach g rs₁
  obtain ⟨rest, hrest⟩ := (s.desk w).exists_reserveEach_append g rs₁ r rs₂
  have hresults : results = before.map Answer.ofOutcome ++
      Answer.ofOutcome (r, ((((s.desk w).reserveEach g rs₁).2).answer ⟨g, r⟩).1) ::
        rest.map Answer.ofOutcome := by
    show ((s.desk w).reserveEach g (rs₁ ++ r :: rs₂)).1.map Answer.ofOutcome = _
    rw [hrest, List.map_append, List.map_cons]
  have hadmitted : Request.admitted (rs₁.map Request.Entry.ofReservation) results =
      ((before.filter (fun q => q.2.isNone)).map Prod.fst).map Request.Entry.ofReservation := by
    rw [hresults, ← Request.admitted_ofOutcome _ before, hbefore]
  have hdesk : s₁.desk w = ((s.desk w).reserveEach g rs₁).2 := by
    rw [s.snd_reserveEach_desk, ← hadmitted]
  refine ⟨before.map Answer.ofOutcome, rest.map Answer.ofOutcome, ?_, by rw [hdesk]; exact hresults⟩
  rw [← hbefore, List.length_map, List.length_map]

/-- What a setup says to one request: `reserve` admits it if nothing else is wrong and `canReserve`
admits it, and names the rule that `canReserve` names. -/
theorem Request.Setup.result_agrees (s : Request.Setup) (w : Surroundings) (g : Ident)
    (r : Reservation) :
    let result := Answer.ofOutcome (r, ((s.desk w).answer ⟨g, r⟩).1)
    let decision := Answer.ofAdmission ((s.ledger w.fresh).admission r.user g r.start r.stop)
    let isValid := Desk.spanRefusal? (s.desk w).maxSpan r.start r.stop = none
    let isListed := (s.ledger w.fresh).lists g r.resource = true
    (result.flag? "admitted" = some true ↔
      isValid ∧ isListed ∧ decision.flag? "admitted" = some true) ∧
    ∀ x, isValid → isListed → decision.text? "ruleId" = some x →
      result.text? "error" = some ("rejected by reservation rule " ++ x) := by
  intro result decision isValid isListed
  have hledger : (s.desk w).ledger = s.ledger w.fresh := rfl
  constructor
  · rw [Answer.admitted_ofOutcome, Answer.admitted_ofAdmission, Option.some_inj, Option.some_inj,
      Option.isNone_iff_eq_none, Desk.fst_answer, Desk.refusal?_eq_none_iff,
      Ledger.refusal?_eq_none_iff, hledger, Admission.isAdmitted_iff]
  · intro x hvalid hlisted hx
    obtain ⟨rule, hrule, rfl⟩ := Answer.eq_rejected_of_ruleId hx
    have hrefusal : (s.desk w).refusal? g r = some (.rejected rule) :=
      (Desk.refusal?_eq_rejected_iff _ g r rule).2 ⟨hvalid, hlisted, hrule⟩
    rw [Answer.error_ofOutcome, Desk.fst_answer, hrefusal]
    rfl

/-- **`reserve` decides as `canReserve` does**, if all reservations come with identifiers. There are as
many results as requests, and the result to a request has its identifier. It says that the request is
admitted if and only if the span is in order, the first group of the identifier lists the resource, and
`canReserve`, asked at any time with the admitted ones of the requests before at the end of the
reservations, says so. Where only a rule rejects, by what `canReserve` says, the error names it. -/
theorem Request.reserve_agrees_with_canReserve (lookup : String → Option String) (now : Int)
    (fresh : Nat → Ident) (setup : Request.Setup) (g : Ident) (es : List Request.Entry)
    (hids : ∀ e ∈ setup.reservations ++ es, e.id?.isSome) :
    let w : Surroundings := { settings := .ofLookup lookup, now, fresh }
    ∃ results : List Json,
      (Request.reserve setup g es).answer w = .success (.object [("results", .array results)]) ∧
      results.length = es.length ∧
      ∀ (pre : List Request.Entry) (e : Request.Entry) (post : List Request.Entry),
        es = pre ++ e :: post →
        let isValid := e.start < e.stop ∧ Desk.earliest ≤ e.start ∧ e.stop ≤ Desk.latest ∧
          e.stop - e.start ≤ w.settings.maxSpan
        let isListed := ∃ group, setup.groups.find? (fun group => group.id = g) = some group ∧
          e.resource ∈ group.resources
        ∃ result decision, results[pre.length]? = some result ∧
          (∀ w' : Surroundings, (Request.canReserve (setup.add (Request.admitted pre results)) e.user g
            e.start e.stop).answer w' = .success decision) ∧
          result.text? "id" = e.id?.map Ident.text ∧
          (result.flag? "admitted" = some true ↔
            isValid ∧ isListed ∧ decision.flag? "admitted" = some true) ∧
          ∀ x, isValid → isListed → decision.text? "reason" = some "rejected" →
            decision.text? "ruleId" = some x →
            result.text? "error" = some ("rejected by reservation rule " ++ x) := by
  intro w
  obtain ⟨hpast, hes⟩ := List.forall_mem_append.1 hids
  obtain ⟨rs, rfl⟩ := Request.Entry.exists_reservations hes
  let d := setup.desk w
  let outcomes := (d.reserveEach g rs).1
  have hanswer : setup.reserve w g (rs.map Request.Entry.ofReservation) = outcomes := by
    rw [Request.Setup.reserve, Request.Entry.toReservations_ofReservation]
    rfl
  refine ⟨outcomes.map Answer.ofOutcome, ?_, ?_, ?_⟩
  · rw [Request.answer, hanswer]
  · rw [List.length_map, List.length_map, ← List.length_map Prod.fst,
      Desk.map_fst_reserveEach]
  intro pre e post hsplit isValid isListed
  obtain ⟨rs₁, rs₂, rfl, rfl, hrs₂⟩ := List.map_eq_append_iff.1 hsplit
  obtain ⟨r, rs₂, rfl, rfl, rfl⟩ := List.map_eq_cons_iff.1 hrs₂
  obtain ⟨before, rest, hlength, hresults⟩ := setup.exists_results_append w g rs₁ r rs₂
  let s := setup.add (Request.admitted (rs₁.map Request.Entry.ofReservation)
    (outcomes.map Answer.ofOutcome))
  have hvalid : isValid ↔ Desk.spanRefusal? (s.desk w).maxSpan r.start r.stop = none := by
    rw [Desk.spanRefusal?_eq_none_iff, s.maxSpan_desk]
    rfl
  have hlisted : isListed ↔ (s.ledger fresh).lists g r.resource = true :=
    (s.lists_ledger_iff fresh g r.resource).symm
  have hknown : ∀ e ∈ s.reservations, e.id?.isSome := by
    intro e he
    rcases List.mem_append.1 he with he | he
    · exact hpast e he
    · exact hes e (List.map_subset _ (List.subset_append_left rs₁ _)
        (Request.mem_of_mem_admitted he))
  obtain ⟨hadmitted, herror⟩ := s.result_agrees w g r
  refine ⟨Answer.ofOutcome (r, ((s.desk w).answer ⟨g, r⟩).1),
    Answer.ofAdmission ((s.ledger fresh).admission r.user g r.start r.stop), ?_, fun w' => ?_,
    Answer.id_ofOutcome r _, ?_, fun x hv hl _ => ?_⟩
  · have hindex : (rs₁.map Request.Entry.ofReservation).length = before.length := by
      rw [List.length_map, hlength]
    rw [show outcomes.map Answer.ofOutcome = _ from hresults, hindex,
      List.getElem?_append_right (Nat.le_refl _), Nat.sub_self, List.getElem?_cons_zero]
  · rw [Request.answer, Request.Setup.ledger_eq_of_ids hknown w'.fresh fresh]
    rfl
  · rw [hvalid, hlisted]
    exact hadmitted
  · exact herror x (hvalid.1 hv) (hlisted.1 hl)

/-- The parking group, with a night of another user. -/
def Request.Setup.parking : Request.Setup :=
  { groups := [{ id := .ofNat 1, name := "Parking", resources := [.ofNat 2] },
      { id := .ofNat 1, name := "Second" }]
    rules := [.oneNight]
    reservations := [.ofReservation (Bid.night (.ofNat 6)).reservation] }

/-- The same night twice, and no time at all in between. -/
def Request.Entry.twoNights : List Request.Entry :=
  [(Bid.night (.ofNat 4)).reservation,
    (Bid.parking (.ofNat 4) 1672945200000 1672945200000).reservation,
    (Bid.night (.ofNat 4)).reservation].map Request.Entry.ofReservation

theorem Request.reserve_agrees_with_canReserve_twoNights :
    ∃ es, es = Request.Entry.twoNights ∧
      (∀ e ∈ Request.Setup.parking.reservations ++ es, e.id?.isSome) ∧
      let w : Surroundings := { settings := .ofLookup (fun _ => some "1"), now := 0, fresh := .ofNat }
      ∃ results, (Request.reserve .parking (.ofNat 1) es).answer w =
          .success (.object [("results", .array results)]) ∧
        results.map (fun result => result.flag? "admitted") =
          [some true, some false, some false] ∧
        ∃ result, results[2]? = some result ∧
          result.text? "error" =
            some ("rejected by reservation rule " ++ "00000000000000000000000003") := by
  obtain ⟨es, hes⟩ : ∃ es, es = Request.Entry.twoNights := ⟨_, rfl⟩
  have hids : ∀ e ∈ Request.Setup.parking.reservations ++ es, e.id?.isSome := by
    rw [hes]
    decide
  obtain ⟨results, hanswer, -, h⟩ := Request.reserve_agrees_with_canReserve (fun _ => some "1") 0
    .ofNat .parking (.ofNat 1) es hids
  have hresults : (Request.Setup.reserve .parking
      { settings := .ofLookup (fun _ => some "1"), now := 0, fresh := .ofNat } (.ofNat 1) es).map
        Answer.ofOutcome = results := by
    simpa [Request.answer] using hanswer
  obtain ⟨result, decision, hresult, hdecision, -, -, herror⟩ := h (es.take 2)
    (.ofReservation (Bid.night (.ofNat 4)).reservation) [] (by rw [hes]; rfl)
  have hdecision' : Answer.ofAdmission _ = decision :=
    Answer.success.inj (hdecision { now := 0, fresh := .ofNat })
  refine ⟨es, hes, hids, results, hanswer, ?_, result, ?_, herror _ ?_ ?_ ?_ ?_⟩
  · rw [← hresults, hes]
    decide +kernel
  · rw [← hresult, hes]
    rfl
  · decide +kernel
  · exact ⟨{ id := .ofNat 1, name := "Parking", resources := [.ofNat 2] }, rfl,
      List.mem_singleton.2 rfl⟩
  · rw [← hdecision', ← hresults, hes]
    decide +kernel
  · rw [← hdecision', ← hresults, hes]
    decide +kernel

end Booking
