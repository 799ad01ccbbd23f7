import Booking.Proofs.Record.Ident
import Booking.Proofs.Recurrence.Canonical
import Booking.Proofs.Traverse
import Booking.Record.Forms
/-!
# Records are read back

What is written of a value is read as that value, and whatever is read, in either form and however
it is spelled, is written in a form that stays the same from then on (`Record.round_trips`). Each
record is followed field by field: what its fields are read as once they are written
(`…ofJson_toJson`), and what is known of them once they are read (`…gives_ofJson`).
-/
namespace Booking

variable {α β ε : Type}

/-! ## What a reader gives -/

/-- If there is a result, it has the property. -/
def Record.Gives (x : Except ε α) (P : α → Prop) : Prop := ∀ a, x = .ok a → P a

theorem Record.Gives.bind {P : α → Prop} {Q : β → Prop} {x : Except ε α} {f : α → Except ε β}
    (hx : Record.Gives x P) (hf : ∀ a, P a → Record.Gives (f a) Q) : Record.Gives (x >>= f) Q := by
  intro b hb
  obtain ⟨a, ha, hb⟩ := bind_eq_ok_iff.1 hb
  exact hf a (hx a ha) b hb

/-- Of a result that is only passed on, nothing has to be known. -/
theorem Record.Gives.andThen {Q : β → Prop} {x : Except ε α} {f : α → Except ε β}
    (hf : ∀ a, Record.Gives (f a) Q) : Record.Gives (x >>= f) Q :=
  Record.Gives.bind (P := fun _ => True) (fun _ _ => trivial) (fun a _ => hf a)

theorem Record.Gives.pure {P : α → Prop} {a : α} (h : P a) :
    Record.Gives (Pure.pure a : Except ε α) P := by
  rintro b ⟨⟩
  exact h

theorem Record.Gives.map {P : α → Prop} {Q : β → Prop} {x : Except ε α} {f : α → β}
    (hx : Record.Gives x P) (hf : ∀ a, P a → Q (f a)) : Record.Gives (x.map f) Q := by
  intro b hb
  cases x with
  | error e => cases hb
  | ok a =>
    cases hb
    exact hf a (hx a rfl)

theorem Record.Gives.mapError {P : α → Prop} {x : Except ε α} {f : ε → β}
    (hx : Record.Gives x P) : Record.Gives (x.mapError f) P := by
  intro a ha
  cases x with
  | error e => cases ha
  | ok b =>
    cases ha
    exact hx a rfl

theorem Record.gives_mismatch {P : α → Prop} (v : Json) (expected : String) :
    Record.Gives (Record.mismatch v expected) P := by
  intro a ha
  cases ha

/-! ## Scalars -/

/-- An instant has 64 bits outside the library. -/
def Instant.IsStored (t : Int) : Prop := Instant.least ≤ t ∧ t ≤ Instant.greatest

/-- A count has 32 bits and no sign outside the library. -/
def Record.IsCount (n : Nat) : Prop := n ≤ 4294967295

theorem Record.gives_integer (least greatest : Int) (expected : String) (v : Json) :
    Record.Gives (Record.integer least greatest expected v)
      (fun i => least ≤ i ∧ i ≤ greatest) := by
  intro i h
  unfold Record.integer at h
  split at h
  · split at h
    · cases h
      assumption
    · cases h
  · cases h

theorem Record.integer_ofInt {least greatest i : Int} (h : least ≤ i ∧ i ≤ greatest)
    (expected : String) : Record.integer least greatest expected (Json.ofInt i) = .ok i :=
  if_pos h

theorem Record.gives_instant (v : Json) : Record.Gives (Record.instant v) Instant.IsStored :=
  Record.gives_integer _ _ _ v

theorem Record.instant_ofInt {t : Int} (h : Instant.IsStored t) :
    Record.instant (Json.ofInt t) = .ok t :=
  Record.integer_ofInt h _

theorem Record.gives_count (v : Json) : Record.Gives (Record.count v) Record.IsCount := by
  refine Record.Gives.bind (Record.gives_integer _ _ _ v) (fun i hi => Record.Gives.pure ?_)
  unfold Record.IsCount
  omega

theorem Record.count_ofInt {n : Nat} (h : Record.IsCount n) :
    Record.count (Json.ofInt n) = .ok n := by
  have hrange : (0 : Int) ≤ n ∧ (n : Int) ≤ 4294967295 := by
    unfold Record.IsCount at h
    omega
  rw [Record.count, Record.integer_ofInt hrange]
  rfl

theorem Record.parsed_string {parse : String → Except ε α} {cause : ε → DataError} {s : String}
    {a : α} (h : parse s = .ok a) : Record.parsed parse cause (.string s) = .ok a := by
  show (parse s).mapError cause = .ok a
  rw [h]
  rfl

theorem Record.gives_parsed (parse : String → Except ε α) (cause : ε → DataError) (v : Json) :
    Record.Gives (Record.parsed parse cause v) (fun a => ∃ s, parse s = .ok a) :=
  Record.Gives.andThen (fun s => Record.Gives.mapError (fun _ ha => ⟨s, ha⟩))

theorem Record.ident_toJson (i : Ident) : Record.ident i.toJson = .ok i :=
  Record.parsed_string i.parse_text

theorem Pattern.gives_ofJson (v : Json) : Record.Gives (Pattern.ofJson v) Pattern.IsParsed :=
  Record.gives_parsed _ _ v

theorem Pattern.ofJson_toJson {p : Pattern} (h : p.IsParsed) : Pattern.ofJson p.toJson = .ok p :=
  Record.parsed_string h.parse_eq_ok

theorem Period.ofJsonWith_toJson (isNothing : Json → Bool) (p : Period) :
    Period.ofJsonWith isNothing p.toJson = .ok p := by
  cases p <;> rfl

theorem Record.listOf_array {read : Record.Reader α} {write : α → Json} {as : List α}
    (h : ∀ a ∈ as, read (write a) = .ok a) :
    Record.listOf read (.array (as.map write)) = .ok as :=
  mapM_eq_ok_iff.2 (List.forall₂_map_left_iff.2 (List.forall₂_same.2 h))

/-! ## Fields -/

theorem Json.valuesOf_cons (key : String) (m : String × Json) (ms : List (String × Json)) :
    Json.valuesOf key (m :: ms) =
      if m.1 = key then m.2 :: Json.valuesOf key ms else Json.valuesOf key ms := by
  unfold Json.valuesOf
  by_cases h : m.1 = key <;> simp [h]

theorem Json.valuesOf_eq_nil {key : String} {ms : List (String × Json)}
    (h : key ∉ ms.map Prod.fst) : Json.valuesOf key ms = [] :=
  List.filterMap_eq_nil_iff.2 (fun m hm =>
    if_neg (fun hkey => h (List.mem_map.2 ⟨m, hm, hkey⟩)))

/-- Among members with different keys, each is found under its key. -/
theorem Json.valuesOf_of_mem {key : String} {v : Json} : ∀ {ms : List (String × Json)},
    (ms.map Prod.fst).Nodup → (key, v) ∈ ms → Json.valuesOf key ms = [v]
  | [], _, hmem => absurd hmem List.not_mem_nil
  | m :: ms, hkeys, hmem => by
    obtain ⟨hfresh, hkeys⟩ := List.nodup_cons.1 hkeys
    rw [Json.valuesOf_cons]
    rcases List.mem_cons.1 hmem with rfl | hmem
    · rw [if_pos rfl, Json.valuesOf_eq_nil hfresh]
    · have hne : m.1 ≠ key := fun h => hfresh (List.mem_map.2 ⟨(key, v), hmem, h.symm⟩)
      rw [if_neg hne, Json.valuesOf_of_mem hkeys hmem]

/-- Where the keys differ, a reader goes on with what the value beside the key is read as. -/
theorem Record.bind_member? {ms : List (String × Json)} {key : String} {v : Json}
    {read : Record.Reader α} {a : α} {f : Option α → Except DataError β}
    (hkeys : (ms.map Prod.fst).Nodup) (hmem : (key, v) ∈ ms) (h : read v = .ok a) :
    (Record.member? ms key read >>= f) = f (some a) := by
  rw [Record.member?, Json.valuesOf_of_mem hkeys hmem]
  show ((read v).map some >>= f) = _
  rw [h]
  rfl

theorem Record.gives_member? {P : α → Prop} {read : Record.Reader α}
    (h : ∀ v, Record.Gives (read v) P) (ms : List (String × Json)) (key : String) :
    Record.Gives (Record.member? ms key read) (fun a? => ∀ a ∈ a?, P a) := by
  unfold Record.member?
  split
  · rintro a? ⟨⟩ a ⟨⟩
  · refine (h _).map (fun a ha => ?_)
    rintro b ⟨⟩
    exact ha
  · intro a? ha?
    cases ha?

theorem Record.gives_require {P : α → Prop} {a? : Option α} (h : ∀ a ∈ a?, P a) (key : String) :
    Record.Gives (Record.require key a?) P := by
  intro a ha
  cases a? with
  | none => cases ha
  | some b =>
    cases ha
    exact h a rfl

theorem Record.Form.gives_item {P : α → Prop} {read : Record.Reader α}
    (h : ∀ v, Record.Gives (read v) P) (f : Record.Form) (vs : List Json) (i : Nat) :
    Record.Gives (f.item vs i read) P := by
  intro a ha
  unfold Record.Form.item at ha
  split at ha
  · exact h _ a ha
  · cases ha

/-! ## Spans and reservations -/

/-- The ends are numbers of 64 bits. -/
structure Span.IsStored (s : Span) : Prop where
  start : Instant.IsStored s.start
  stop : Instant.IsStored s.stop

theorem Span.ofJson_toJson {s : Span} (h : s.IsStored) : Span.ofJson s.toJson = .ok s := by
  have hkeys : ["start", "end"].Nodup := by decide
  rw [Span.toJson, Span.ofJson]
  refine Eq.trans (Record.bind_member? hkeys (by simp) (Record.instant_ofInt h.stop)) ?_
  refine Eq.trans (Record.bind_member? hkeys (by simp) (Record.instant_ofInt h.start)) ?_
  rfl

theorem Span.gives_ofJson (v : Json) : Record.Gives (Span.ofJson v) Span.IsStored := by
  cases v with
  | object ms =>
    refine .bind (Record.gives_member? Record.gives_instant ms "end") fun stop hstop => ?_
    refine .bind (Record.gives_member? Record.gives_instant ms "start") fun start hstart => ?_
    refine .bind (Record.gives_require hstart "start") fun start hstart => ?_
    refine .bind (Record.gives_require hstop "end") fun stop hstop => ?_
    exact .pure ⟨hstart, hstop⟩
  | array vs =>
    refine .bind (Span.form.gives_item Record.gives_instant vs 0) fun start hstart => ?_
    refine .bind (Span.form.gives_item Record.gives_instant vs 1) fun stop hstop => ?_
    exact .andThen fun _ => .pure ⟨hstart, hstop⟩
  | null | bool _ | number _ | string _ => exact Record.gives_mismatch _ _

/-- The two instants are numbers of 64 bits. -/
structure Reservation.IsStored (r : Reservation) : Prop where
  start : Instant.IsStored r.start
  stop : Instant.IsStored r.stop

theorem Reservation.ofJson_toJson {r : Reservation} (h : r.IsStored) :
    Reservation.ofJson r.toJson = .ok r := by
  have hkeys : ["id", "userId", "resourceId", "start", "end"].Nodup := by decide
  rw [Reservation.toJson, Reservation.ofJson]
  refine Eq.trans (Record.bind_member? hkeys (by simp) (Record.instant_ofInt h.stop)) ?_
  refine Eq.trans (Record.bind_member? hkeys (by simp) (Record.ident_toJson r.id)) ?_
  refine Eq.trans (Record.bind_member? hkeys (by simp) (Record.ident_toJson r.resource)) ?_
  refine Eq.trans (Record.bind_member? hkeys (by simp) (Record.instant_ofInt h.start)) ?_
  refine Eq.trans (Record.bind_member? hkeys (by simp) (Record.ident_toJson r.user)) ?_
  rfl

theorem Reservation.gives_ofJson (v : Json) :
    Record.Gives (Reservation.ofJson v) Reservation.IsStored := by
  cases v with
  | object ms =>
    refine .bind (Record.gives_member? Record.gives_instant ms "end") fun stop hstop => ?_
    refine .andThen fun id => .andThen fun resource => ?_
    refine .bind (Record.gives_member? Record.gives_instant ms "start") fun start hstart => ?_
    refine .andThen fun user => .andThen fun id => .andThen fun user => .andThen fun resource => ?_
    refine .bind (Record.gives_require hstart "start") fun start hstart => ?_
    refine .bind (Record.gives_require hstop "end") fun stop hstop => ?_
    exact .pure ⟨hstart, hstop⟩
  | array vs =>
    refine .andThen fun id => .andThen fun user => .andThen fun resource => ?_
    refine .bind (Reservation.form.gives_item Record.gives_instant vs 3) fun start hstart => ?_
    refine .bind (Reservation.form.gives_item Record.gives_instant vs 4) fun stop hstop => ?_
    exact .andThen fun _ => .pure ⟨hstart, hstop⟩
  | null | bool _ | number _ | string _ => exact Record.gives_mismatch _ _

/-! ## Groups, quotas and rules -/

theorem Group.ofJson_toJson (g : Group) : Group.ofJson g.toJson = .ok g := by
  have hkeys : ["id", "name", "resources"].Nodup := by decide
  have hname : Record.string (.string g.name) = .ok g.name := rfl
  have hresources : Record.listOf Record.ident (.array (g.resources.map Ident.toJson)) =
      .ok g.resources :=
    Record.listOf_array (fun i _ => Record.ident_toJson i)
  rw [Group.toJson, Group.ofJson]
  refine Eq.trans (Record.bind_member? hkeys (by simp) (Record.ident_toJson g.id)) ?_
  refine Eq.trans (Record.bind_member? hkeys (by simp) hname) ?_
  refine Eq.trans (Record.bind_member? hkeys (by simp) hresources) ?_
  rfl

/-- The count is a number of 32 bits. -/
def Quota.IsStored (q : Quota) : Prop := Record.IsCount q.count

theorem Quota.ofJsonWith_toJson (isNothing : Json → Bool) {q : Quota} (h : q.IsStored) :
    Quota.ofJsonWith (Period.ofJsonWith isNothing) q.toJson = .ok q := by
  have hkeys : ["count", "period"].Nodup := by decide
  have hperiod := Period.ofJsonWith_toJson isNothing q.period
  rw [Quota.toJson, Quota.ofJsonWith]
  refine Eq.trans (Record.bind_member? hkeys (by simp) (Record.count_ofInt h)) ?_
  refine Eq.trans (Record.bind_member? hkeys (by simp) hperiod) ?_
  rfl

theorem Quota.gives_ofJsonWith (period : Record.Reader Period) (v : Json) :
    Record.Gives (Quota.ofJsonWith period v) Quota.IsStored := by
  cases v with
  | object ms =>
    refine .bind (Record.gives_member? Record.gives_count ms "count") fun count hcount => ?_
    refine .andThen fun period => ?_
    exact .bind (Record.gives_require hcount "count") fun count hcount => .pure hcount
  | array vs =>
    refine .bind (Quota.form.gives_item Record.gives_count vs 0) fun count hcount => ?_
    exact .andThen fun period => .andThen fun _ => .pure hcount
  | null | bool _ | number _ | string _ => exact Record.gives_mismatch _ _

/-- The limit is a number of 32 bits and the window was read from a text; the constraints may be
anything. -/
structure Rule.IsStored (rule : Rule) : Prop where
  limit : Record.IsCount rule.limit
  window : rule.window.IsParsed

theorem Rule.ofJson_toJson {rule : Rule} (h : rule.IsStored) :
    Rule.ofJson rule.toJson = .ok rule := by
  have hkeys : ["id", "availabilityGroupId", "maxReservationsPerWindow", "window",
    "resourceConstraints"].Nodup := by decide
  have hwindow := Pattern.ofJson_toJson h.window
  rw [Rule.toJson, Rule.ofJson]
  refine Eq.trans (Record.bind_member? hkeys (by simp) (Record.ident_toJson rule.group)) ?_
  refine Eq.trans (Record.bind_member? hkeys (by simp) (Record.ident_toJson rule.id)) ?_
  refine Eq.trans (Record.bind_member? hkeys (by simp) (Record.count_ofInt h.limit)) ?_
  refine Eq.trans (Record.bind_member? hkeys (by simp) (Eq.refl (Except.ok rule.constraints))) ?_
  refine Eq.trans (Record.bind_member? hkeys (by simp) hwindow) ?_
  rfl

theorem Rule.gives_ofJson (v : Json) : Record.Gives (Rule.ofJson v) Rule.IsStored := by
  cases v with
  | object ms =>
    refine .andThen fun group => .andThen fun id => ?_
    refine .bind (Record.gives_member? Record.gives_count ms "maxReservationsPerWindow")
      fun limit hlimit => ?_
    refine .andThen fun constraints => ?_
    refine .bind (Record.gives_member? Pattern.gives_ofJson ms "window") fun window hwindow => ?_
    refine .andThen fun id => .andThen fun group => ?_
    refine .bind (Record.gives_require hlimit "maxReservationsPerWindow") fun limit hlimit => ?_
    refine .bind (Record.gives_require hwindow "window") fun window hwindow => ?_
    exact .pure ⟨hlimit, hwindow⟩
  | array vs =>
    refine .andThen fun id => .andThen fun group => ?_
    refine .bind (Rule.form.gives_item Record.gives_count vs 2) fun limit hlimit => ?_
    refine .bind (Rule.form.gives_item Pattern.gives_ofJson vs 3) fun window hwindow => ?_
    exact .andThen fun constraints => .andThen fun _ => .pure ⟨hlimit, hwindow⟩
  | null | bool _ | number _ | string _ => exact Record.gives_mismatch _ _

/-! ## All of them -/

/-- What is written of a value is read as that value; what is read is a value; and what is written
of a value that was read is, if it is read and written once more, the same. -/
structure Record.RoundTrips (IsValue : α → Prop) (read : Record.Reader α) (write : α → Json) :
    Prop where
  read_write : ∀ a, IsValue a → read (write a) = .ok a
  gives : ∀ v, Record.Gives (read v) IsValue
  write_again : ∀ v w, (read v).map write = .ok w → (read w).map write = .ok w

theorem Record.RoundTrips.of_gives {IsValue : α → Prop} {read : Record.Reader α}
    {write : α → Json} (hwrite : ∀ a, IsValue a → read (write a) = .ok a)
    (hgives : ∀ v, Record.Gives (read v) IsValue) : Record.RoundTrips IsValue read write := by
  refine ⟨hwrite, hgives, fun v w h => ?_⟩
  cases hread : read v with
  | error e =>
    rw [hread] at h
    cases h
  | ok a =>
    rw [hread] at h
    cases h
    rw [hwrite a (hgives v a hread)]
    rfl

/-- **Every record is read back as it was written, and keeps the form in which it is first
written**, however it was spelled before. Instants and counts are those that a record can hold, and
patterns those that come from a text. What counts as nothing beside the name of a period makes no
difference. -/
theorem Record.round_trips :
    Record.RoundTrips (fun _ => True) Record.ident Ident.toJson ∧
    Record.RoundTrips Pattern.IsParsed Pattern.ofJson Pattern.toJson ∧
    Record.RoundTrips Span.IsStored Span.ofJson Span.toJson ∧
    Record.RoundTrips Reservation.IsStored Reservation.ofJson Reservation.toJson ∧
    Record.RoundTrips (fun _ => True) Group.ofJson Group.toJson ∧
    Record.RoundTrips Rule.IsStored Rule.ofJson Rule.toJson ∧
    ∀ isNothing,
      Record.RoundTrips (fun _ => True) (Period.ofJsonWith isNothing) Period.toJson ∧
      Record.RoundTrips Quota.IsStored (Quota.ofJsonWith (Period.ofJsonWith isNothing))
        Quota.toJson := by
  refine ⟨.of_gives (fun i _ => Record.ident_toJson i) (fun _ _ _ => trivial),
    .of_gives (fun p => Pattern.ofJson_toJson) Pattern.gives_ofJson,
    .of_gives (fun s => Span.ofJson_toJson) Span.gives_ofJson,
    .of_gives (fun r => Reservation.ofJson_toJson) Reservation.gives_ofJson,
    .of_gives (fun g _ => Group.ofJson_toJson g) (fun _ _ _ => trivial),
    .of_gives (fun rule => Rule.ofJson_toJson) Rule.gives_ofJson, fun isNothing => ⟨?_, ?_⟩⟩
  · exact .of_gives (fun p _ => Period.ofJsonWith_toJson isNothing p) (fun _ _ _ => trivial)
  · exact .of_gives (fun q => Quota.ofJsonWith_toJson isNothing) (Quota.gives_ofJsonWith _)

/-- A rule in an array, its identifier in lower case and too large, its window with a leading zero
and its constraints missing; and a quota with a key that it does not know and without a period. -/
theorem Record.round_trips_otherSpellings :
    let rule : Json := .array [.string "8zzzzzzzzzzzzzzzzzzzzzzzzz",
      .string "01000000000000000000000001", Json.ofInt 2, .string "00 19-7 * * *"]
    let rule' : Json := .object [("id", .string "0ZZZZZZZZZZZZZZZZZZZZZZZZZ"),
      ("availabilityGroupId", .string "01000000000000000000000001"),
      ("maxReservationsPerWindow", Json.ofInt 2), ("window", .string "0 19-7 * * *"),
      ("resourceConstraints", .null)]
    let quota : Json := .object [("note", .bool true), ("count", Json.ofInt 3)]
    let quota' : Json := .object [("count", Json.ofInt 3), ("period", .string "day")]
    ((Rule.ofJson rule).map Rule.toJson = .ok rule' ∧
      (Rule.ofJson rule').map Rule.toJson = .ok rule') ∧
    (Quota.ofJson quota).map Quota.toJson = .ok quota' ∧
      (Quota.ofJson quota').map Quota.toJson = .ok quota' := by
  intro rule rule' quota quota'
  obtain ⟨-, -, -, -, -, hrule, hquota⟩ := Record.round_trips
  have hwritten : (Rule.ofJson rule).map Rule.toJson = .ok rule' := by rfl
  have hwritten' : (Quota.ofJson quota).map Quota.toJson = .ok quota' := by rfl
  exact ⟨⟨hwritten, hrule.write_again rule rule' hwritten⟩,
    hwritten', (hquota Json.isNull).2.write_again quota quota' hwritten'⟩

end Booking
