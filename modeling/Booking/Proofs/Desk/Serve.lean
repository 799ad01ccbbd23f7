import Booking.Proofs.Ledger.History
import Booking.Proofs.Ledger.Usage
/-!
# Bids, one after the other

A bid asks a desk for a reservation through a group. The desk answers the bids of a list one after
the other, each with what the bids before it have left of the ledger. Only the log grows on the way,
by the reservations of the bids that are taken (`Desk.snd_serve`); the groups and the rules stay as
they are (`Desk.serve_keeps`).
-/
namespace Booking

/-- A reservation asked for through a group. -/
structure Bid where
  group : Ident
  reservation : Reservation
deriving DecidableEq, Repr

/-- What is wrong with the bid, if anything, and the desk after it. -/
def Desk.answer (d : Desk) (b : Bid) : Option Refusal × Desk :=
  match d.reserve b.group b.reservation with
  | .error refusal => (some refusal, d)
  | .ok d' => (none, d')

/-- The answers to the bids, and the desk after the last of them. -/
def Desk.serve (d : Desk) : List Bid → List (Option Refusal) × Desk
  | [] => ([], d)
  | b :: bs => ((d.answer b).1 :: ((d.answer b).2.serve bs).1, ((d.answer b).2.serve bs).2)

/-- The bids that the desk takes. -/
def Desk.taken (d : Desk) (bs : List Bid) : List Bid :=
  ((bs.zip (d.serve bs).1).filter (fun q => q.2.isNone)).map Prod.fst

/-- The bids of the user through the group that the desk takes. -/
def Desk.takenFor (d : Desk) (bs : List Bid) (user g : Ident) : List Bid :=
  (d.taken bs).filter (fun b => b.reservation.user = user ∧ b.group = g)

/-! ## One bid -/

theorem Desk.answer_of_refusal {d : Desk} {b : Bid} {refusal : Refusal}
    (h : d.refusal? b.group b.reservation = some refusal) : d.answer b = (some refusal, d) := by
  simp [Desk.answer, Desk.reserve, h]

theorem Desk.answer_of_none {d : Desk} {b : Bid} (h : d.refusal? b.group b.reservation = none) :
    d.answer b = (none, d.apply (.reservation b.reservation)) := by
  simp [Desk.answer, Desk.reserve, h, Desk.apply, Ledger.apply]

/-- **A bid is refused and changes nothing, or is taken and put at the end of the log.** -/
theorem Desk.answer_cases (d : Desk) (b : Bid) :
    (∃ refusal, d.refusal? b.group b.reservation = some refusal ∧
      d.answer b = (some refusal, d)) ∨
    (d.refusal? b.group b.reservation = none ∧
      d.answer b = (none, d.apply (.reservation b.reservation))) := by
  cases h : d.refusal? b.group b.reservation with
  | some refusal => exact Or.inl ⟨refusal, rfl, Desk.answer_of_refusal h⟩
  | none => exact Or.inr ⟨rfl, Desk.answer_of_none h⟩

theorem Desk.fst_answer (d : Desk) (b : Bid) :
    (d.answer b).1 = d.refusal? b.group b.reservation := by
  rcases d.answer_cases b with ⟨refusal, h, ha⟩ | ⟨h, ha⟩ <;> rw [ha, h]

/-- A span is in order if it is not empty, lies within the limits and is not too wide. -/
theorem Desk.spanRefusal?_eq_none_iff (maxSpan start stop : Int) :
    Desk.spanRefusal? maxSpan start stop = none ↔
      start < stop ∧ Desk.earliest ≤ start ∧ stop ≤ Desk.latest ∧ stop - start ≤ maxSpan := by
  unfold Desk.spanRefusal? Desk.isWithinLimits
  split
  · simp only [reduceCtorEq, false_iff]
    omega
  · split
    · rename_i _ hlimits
      simp only [Bool.not_eq_true', Bool.and_eq_false_iff, decide_eq_false_iff_not] at hlimits
      simp only [reduceCtorEq, false_iff]
      omega
    · rename_i _ hlimits
      simp only [Bool.not_eq_true', Bool.and_eq_false_iff, decide_eq_false_iff_not] at hlimits
      split <;> simp <;> omega

theorem Desk.refusal?_eq_none_iff (d : Desk) (g : Ident) (r : Reservation) :
    d.refusal? g r = none ↔
      Desk.spanRefusal? d.maxSpan r.start r.stop = none ∧ d.ledger.refusal? g r = none := by
  simp [Desk.refusal?]

/-- A span is refused for itself and by no rule. -/
theorem Desk.spanRefusal?_ne_rejected (maxSpan start stop : Int) (id : Ident) :
    Desk.spanRefusal? maxSpan start stop ≠ some (.rejected id) := by
  unfold Desk.spanRefusal?
  split
  · simp
  · split
    · simp
    · split <;> simp

theorem Desk.refusal?_eq_rejected_iff (d : Desk) (g : Ident) (r : Reservation) (id : Ident) :
    d.refusal? g r = some (.rejected id) ↔
      Desk.spanRefusal? d.maxSpan r.start r.stop = none ∧ d.ledger.lists g r.resource = true ∧
        d.ledger.admission r.user g r.start r.stop = .rejected id := by
  rw [← Ledger.refusal?_eq_rejected_iff, Desk.refusal?, Option.or_eq_some_iff]
  have hspan := Desk.spanRefusal?_ne_rejected d.maxSpan r.start r.stop id
  simp only [hspan, false_or]

theorem Desk.isIndexed_answer {d : Desk} (h : d.ledger.IsIndexed) (b : Bid) :
    (d.answer b).2.ledger.IsIndexed := by
  rcases d.answer_cases b with ⟨refusal, -, ha⟩ | ⟨-, ha⟩ <;> rw [ha]
  · exact h
  · exact h.addReservation b.reservation

theorem Desk.group?_answer (d : Desk) (b : Bid) (g : Ident) :
    (d.answer b).2.ledger.group? g = d.ledger.group? g := by
  rcases d.answer_cases b with ⟨refusal, -, ha⟩ | ⟨-, ha⟩ <;> rw [ha] <;> rfl

theorem Desk.rulesFor_answer (d : Desk) (b : Bid) (g : Ident) :
    (d.answer b).2.ledger.rulesFor g = d.ledger.rulesFor g := by
  rcases d.answer_cases b with ⟨refusal, -, ha⟩ | ⟨-, ha⟩ <;> rw [ha] <;> rfl

theorem Desk.maxSpan_answer (d : Desk) (b : Bid) : (d.answer b).2.maxSpan = d.maxSpan := by
  rcases d.answer_cases b with ⟨refusal, -, ha⟩ | ⟨-, ha⟩ <;> rw [ha] <;> rfl

/-! ## Changes -/

/-- The desk after changes to its ledger. -/
def Desk.changed (d : Desk) (cs : List Ledger.Change) : Desk :=
  { d with ledger := cs.foldl Ledger.apply d.ledger }

theorem Desk.changed_append (d : Desk) (cs cs' : List Ledger.Change) :
    d.changed (cs ++ cs') = (d.changed cs).changed cs' := by
  simp only [Desk.changed, List.foldl_append]

theorem Desk.isIndexed_changed {d : Desk} (h : d.ledger.IsIndexed) (cs : List Ledger.Change) :
    (d.changed cs).ledger.IsIndexed :=
  h.foldl cs

/-! ## Many bids -/

theorem Desk.serve_append : ∀ (as bs : List Bid) (d : Desk),
    d.serve (as ++ bs) =
      ((d.serve as).1 ++ ((d.serve as).2.serve bs).1, ((d.serve as).2.serve bs).2)
  | [], _, _ => rfl
  | a :: as, bs, d => by
    rw [List.cons_append, Desk.serve, Desk.serve_append as bs (d.answer a).2]
    rfl

theorem Desk.serve_concat (bs : List Bid) (b : Bid) (d : Desk) :
    d.serve (bs ++ [b]) =
      ((d.serve bs).1 ++ [((d.serve bs).2.answer b).1], ((d.serve bs).2.answer b).2) := by
  rw [Desk.serve_append]
  rfl

theorem Desk.length_serve : ∀ (bs : List Bid) (d : Desk), (d.serve bs).1.length = bs.length
  | [], _ => rfl
  | b :: bs, d => congrArg Nat.succ (Desk.length_serve bs (d.answer b).2)

theorem Desk.isIndexed_serve : ∀ (bs : List Bid) {d : Desk}, d.ledger.IsIndexed →
    (d.serve bs).2.ledger.IsIndexed
  | [], _, h => h
  | b :: bs, _, h => Desk.isIndexed_serve bs (Desk.isIndexed_answer h b)

/-- **Bids change the log and nothing else**: groups, rules and the widest span stay as they are. -/
theorem Desk.serve_keeps : ∀ (bs : List Bid) (d : Desk),
    (∀ g, (d.serve bs).2.ledger.group? g = d.ledger.group? g) ∧
      (∀ g, (d.serve bs).2.ledger.rulesFor g = d.ledger.rulesFor g) ∧
      (d.serve bs).2.maxSpan = d.maxSpan
  | [], _ => ⟨fun _ => rfl, fun _ => rfl, rfl⟩
  | b :: bs, d => by
    obtain ⟨hgroups, hrules, hspan⟩ := Desk.serve_keeps bs (d.answer b).2
    exact ⟨fun g => (hgroups g).trans (d.group?_answer b g),
      fun g => (hrules g).trans (d.rulesFor_answer b g), hspan.trans (d.maxSpan_answer b)⟩

theorem Desk.lists_serve (d : Desk) (bs : List Bid) (g resource : Ident) :
    (d.serve bs).2.ledger.lists g resource = d.ledger.lists g resource := by
  rw [Ledger.lists, (Desk.serve_keeps bs d).1, Ledger.lists]

theorem Desk.taken_cons (d : Desk) (b : Bid) (bs : List Bid) :
    d.taken (b :: bs) =
      (if (d.answer b).1 = none then [b] else []) ++ (d.answer b).2.taken bs := by
  unfold Desk.taken
  rw [Desk.serve, List.zip_cons_cons, List.filter_cons]
  cases (d.answer b).1 <;> rfl

theorem Desk.taken_sublist (d : Desk) (bs : List Bid) : (d.taken bs).Sublist bs := by
  have hzip : (bs.zip (d.serve bs).1).map Prod.fst = bs :=
    List.map_fst_zip (Nat.le_of_eq (Desk.length_serve bs d).symm)
  rw [Desk.taken]
  conv => rhs; rw [← hzip]
  exact List.filter_sublist.map Prod.fst

/-- **What bids do to a desk** is that the reservations of those that it takes are added. -/
theorem Desk.snd_serve : ∀ (bs : List Bid) (d : Desk),
    (d.serve bs).2 = d.changed ((d.taken bs).map (fun b => .reservation b.reservation))
  | [], _ => rfl
  | b :: bs, d => by
    rw [Desk.serve, Desk.snd_serve bs, Desk.taken_cons]
    rcases d.answer_cases b with ⟨refusal, -, ha⟩ | ⟨-, ha⟩ <;> rw [ha] <;> rfl

theorem Desk.log_serve (bs : List Bid) (d : Desk) :
    (d.serve bs).2.ledger.log.toList = d.ledger.log.toList ++ (d.taken bs).map Bid.reservation := by
  rw [Desk.snd_serve, Desk.changed, Ledger.log_foldl, History.log, List.filterMap_map]
  simp [Function.comp_def, Ledger.Change.reservation?]

theorem Desk.taken_concat : ∀ (bs : List Bid) (b : Bid) (d : Desk),
    d.taken (bs ++ [b]) =
      d.taken bs ++ if ((d.serve bs).2.answer b).1 = none then [b] else []
  | [], b, d => by
    rw [List.nil_append, Desk.taken_cons]
    exact List.append_nil _
  | b₀ :: bs, b, d => by
    rw [List.cons_append, Desk.taken_cons, Desk.taken_concat bs, Desk.taken_cons,
      List.append_assoc]
    rfl

/-- A bid that is taken was taken after those before it. -/
theorem Desk.exists_serve_of_taken : ∀ (bs : List Bid) {d : Desk} {pre post : List Bid} {b : Bid},
    d.taken bs = pre ++ b :: post →
      ∃ before, d.taken before = pre ∧ ((d.serve before).2.answer b).1 = none
  | [], _, pre, _, _, h => by cases pre <;> cases h
  | b₀ :: bs, d, pre, post, b, h => by
    rw [Desk.taken_cons] at h
    by_cases ht : (d.answer b₀).1 = none
    · rw [if_pos ht, List.singleton_append] at h
      cases pre with
      | nil =>
        simp only [List.nil_append, List.cons.injEq] at h
        obtain ⟨rfl, -⟩ := h
        exact ⟨[], rfl, ht⟩
      | cons p pre =>
        simp only [List.cons_append, List.cons.injEq] at h
        obtain ⟨rfl, h⟩ := h
        obtain ⟨before, hbefore, hb⟩ := Desk.exists_serve_of_taken bs h
        exact ⟨b₀ :: before, by rw [Desk.taken_cons, if_pos ht, hbefore]; rfl, hb⟩
    · rw [if_neg ht, List.nil_append] at h
      obtain ⟨before, hbefore, hb⟩ := Desk.exists_serve_of_taken bs h
      exact ⟨b₀ :: before, by rw [Desk.taken_cons, if_neg ht, hbefore]; rfl, hb⟩

theorem Desk.takenFor_cons (d : Desk) (b : Bid) (bs : List Bid) (user g : Ident) :
    d.takenFor (b :: bs) user g =
      (if (d.answer b).1 = none ∧ b.reservation.user = user ∧ b.group = g then [b] else []) ++
        (d.answer b).2.takenFor bs user g := by
  unfold Desk.takenFor
  rw [Desk.taken_cons, List.filter_append]
  by_cases ht : (d.answer b).1 = none <;>
    by_cases hb : b.reservation.user = user ∧ b.group = g <;> simp [ht, hb]

/-! ## A parking group -/

/-- The window `0 19-7 * * *`: the full hours of the night. -/
def Pattern.overnight : Pattern := ⟨[.range 0 0 1], [.range 19 7 1], [.any], [.any], [.any]⟩

def Rule.oneNight : Rule :=
  { id := .ofNat 3, group := .ofNat 1, limit := 1, window := .overnight }

/-- One spot, and one night for each user. -/
def Ledger.parking : List Ledger.Change :=
  [.group { id := .ofNat 1, name := "Parking", resources := [.ofNat 2] }, .rule .oneNight]

def Bid.parking (user : Ident) (start stop : Int) : Bid :=
  { group := .ofNat 1,
    reservation := { id := .ofNat 5, user, resource := .ofNat 2, start, stop } }

/-- From 19:00 to 7:00: both ends lie in the window. -/
def Bid.night (user : Ident) : Bid := .parking user 1672945200000 1672988400000

/-- From 20:00 to 8:00: the window accepts the midnight after the end, but not the end. -/
def Bid.late (user : Ident) : Bid := .parking user 1672948800000 1672992000000

end Booking
