import Booking.Proofs.Desk.Serve
import Booking.Proofs.Ledger.Users
/-!
# Users among themselves

Desks are the same for a user if their ledgers are, and what other users ask for keeps them so. So
the answers to a user's bids are those that they would get if nobody else asked for anything
(`Desk.serve_sameFor`), and of two bids by different users it does not matter which comes first
(`Desk.users_do_not_interfere`).
-/
namespace Booking

/-! ## Bids -/

/-- The desks are the same for the user. -/
structure Desk.SameFor (user : Ident) (d d' : Desk) : Prop where
  maxSpan : d.maxSpan = d'.maxSpan
  ledger : d.ledger.SameFor user d'.ledger

theorem Desk.SameFor.refl (user : Ident) (d : Desk) : d.SameFor user d := ⟨rfl, .refl user d.ledger⟩

theorem Desk.SameFor.symm {user : Ident} {d d' : Desk} (h : d.SameFor user d') :
    d'.SameFor user d :=
  ⟨h.maxSpan.symm, h.ledger.symm⟩

theorem Desk.SameFor.trans {user : Ident} {d d' d'' : Desk} (h : d.SameFor user d')
    (h' : d'.SameFor user d'') : d.SameFor user d'' :=
  ⟨h.maxSpan.trans h'.maxSpan, h.ledger.trans h'.ledger⟩

section

variable {d d' : Desk} {b : Bid} {user : Ident}

/-- A bid of the user is answered alike, and leaves the desks the same for the user. -/
theorem Desk.SameFor.answer (h : d.SameFor b.reservation.user d') (hd : d.ledger.IsIndexed)
    (hd' : d'.ledger.IsIndexed) :
    (d.answer b).1 = (d'.answer b).1 ∧ (d.answer b).2.SameFor b.reservation.user (d'.answer b).2 := by
  have hrefusal : d.refusal? b.group b.reservation = d'.refusal? b.group b.reservation := by
    rw [Desk.refusal?, Desk.refusal?, h.maxSpan, h.ledger.refusal?_eq hd hd']
  rcases d.answer_cases b with ⟨refusal, hd, ha⟩ | ⟨hd, ha⟩
  · rw [ha, Desk.answer_of_refusal (hrefusal ▸ hd)]
    exact ⟨rfl, h⟩
  · rw [ha, Desk.answer_of_none (hrefusal ▸ hd)]
    exact ⟨rfl, h.maxSpan, h.ledger.addReservation b.reservation⟩

/-- The bid of another user leaves the desks the same for the user, whatever its answer. -/
theorem Desk.SameFor.answer_of_ne (h : d.SameFor user d') (hb : b.reservation.user ≠ user) :
    (d.answer b).2.SameFor user d' := by
  rcases d.answer_cases b with ⟨refusal, -, ha⟩ | ⟨-, ha⟩ <;> rw [ha]
  · exact h
  · exact ⟨h.maxSpan, h.ledger.addReservation_of_ne hb⟩

end

/-- **What other users ask for makes no difference to a user**: the user's bids get the answers that
they get when the others are left out, and the desk is then the same for the user. -/
theorem Desk.serve_sameFor (user : Ident) : ∀ (bs : List Bid) {d d' : Desk},
    d.ledger.IsIndexed → d'.ledger.IsIndexed → d.SameFor user d' →
      let mine := bs.filter (fun b => b.reservation.user = user)
      (bs.zip (d.serve bs).1).filter (fun q => q.1.reservation.user = user) =
          mine.zip (d'.serve mine).1 ∧
        (d.serve bs).2.SameFor user (d'.serve mine).2
  | [], _, _, _, _, h => ⟨rfl, h⟩
  | b :: bs, d, d', hd, hd', h => by
    intro mine
    rw [Desk.serve, List.zip_cons_cons]
    by_cases hb : b.reservation.user = user
    · have hmine : mine = b :: bs.filter (fun b => b.reservation.user = user) :=
        List.filter_cons_of_pos (by simpa using hb)
      subst hb
      obtain ⟨hanswer, hafter⟩ := h.answer hd hd'
      obtain ⟨hrest, hlast⟩ := Desk.serve_sameFor b.reservation.user bs
        (Desk.isIndexed_answer hd b) (Desk.isIndexed_answer hd' b) hafter
      rw [hmine, Desk.serve, List.zip_cons_cons, List.filter_cons_of_pos (by simp), hrest, hanswer]
      exact ⟨rfl, hlast⟩
    · have hmine : mine = bs.filter (fun b => b.reservation.user = user) :=
        List.filter_cons_of_neg (by simpa using hb)
      rw [hmine, List.filter_cons_of_neg (by simpa using hb)]
      exact Desk.serve_sameFor user bs (Desk.isIndexed_answer hd b) hd' (h.answer_of_ne hb)

/-- Two lists of bids in which the user asks for the same are the same for the user. -/
theorem Desk.serve_sameFor_of_filter_eq {d : Desk} (hd : d.ledger.IsIndexed) (user : Ident)
    {bs bs' : List Bid} (h : bs.filter (fun b => b.reservation.user = user) =
      bs'.filter (fun b => b.reservation.user = user)) :
    (bs.zip (d.serve bs).1).filter (fun q => q.1.reservation.user = user) =
        (bs'.zip (d.serve bs').1).filter (fun q => q.1.reservation.user = user) ∧
      (d.serve bs).2.SameFor user (d.serve bs').2 := by
  obtain ⟨hanswers, hlast⟩ := Desk.serve_sameFor user bs hd hd (.refl user d)
  obtain ⟨hanswers', hlast'⟩ := Desk.serve_sameFor user bs' hd hd (.refl user d)
  rw [← h] at hanswers' hlast'
  exact ⟨hanswers.trans hanswers'.symm, hlast.trans hlast'.symm⟩

/-- Of two bids by different users each gets the same answer, and leaves the desk the same for every
user, whichever comes first. -/
theorem Desk.serve_swap {d : Desk} (hd : d.ledger.IsIndexed) {b b' : Bid}
    (hne : b.reservation.user ≠ b'.reservation.user) :
    (d.serve [b', b]).1 = (d.serve [b, b']).1.reverse ∧
      d.taken [b', b] = (d.taken [b, b']).reverse ∧
      ∀ user, (d.serve [b, b']).2.SameFor user (d.serve [b', b]).2 := by
  have hmine (user : Ident) : [b, b'].filter (fun b => b.reservation.user = user) =
      [b', b].filter (fun b => b.reservation.user = user) := by
    by_cases hb : b.reservation.user = user <;> by_cases hb' : b'.reservation.user = user <;>
      simp_all
  have hsame (user : Ident) := Desk.serve_sameFor_of_filter_eq hd user (hmine user)
  have hanswer : ((d.answer b').2.answer b).1 = (d.answer b).1 := by
    have hfirst := (hsame b.reservation.user).1
    simpa [Desk.serve, Ne.symm hne] using hfirst.symm
  have hanswer' : ((d.answer b).2.answer b').1 = (d.answer b').1 := by
    have hsecond := (hsame b'.reservation.user).1
    simpa [Desk.serve, hne] using hsecond
  refine ⟨?_, ?_, fun user => (hsame user).2⟩
  · simp [Desk.serve, hanswer, hanswer']
  · rw [Desk.taken_cons, Desk.taken_cons, Desk.taken_cons, Desk.taken_cons, hanswer, hanswer']
    split <;> split <;> rfl

/-- **Users do not interfere.** Two ledgers that are the same for a user give the user the same
reservations and the same decisions. And of two bids by different users it does not matter which
comes first: each gets the same answer, and the desks afterwards agree in all that they tell any
user, and in all but the order of the two entries in the log. -/
theorem Desk.users_do_not_interfere :
    (∀ (cs cs' : List Ledger.Change) (user : Ident),
      (Ledger.ofChanges cs).SameFor user (Ledger.ofChanges cs') → ∀ g,
        (Ledger.ofChanges cs).reservationsFor user g =
          (Ledger.ofChanges cs').reservationsFor user g ∧
        ∀ start stop, (Ledger.ofChanges cs).admission user g start stop =
          (Ledger.ofChanges cs').admission user g start stop) ∧
    ∀ (d : Desk) (b b' : Bid), (∃ cs, d.ledger = Ledger.ofChanges cs) →
      b.reservation.user ≠ b'.reservation.user →
      let one := d.serve [b, b']
      let other := d.serve [b', b]
      other.1 = one.1.reverse ∧
      (∀ user g, one.2.ledger.reservationsFor user g = other.2.ledger.reservationsFor user g) ∧
      (∀ user g start stop, one.2.ledger.admission user g start stop =
        other.2.ledger.admission user g start stop) ∧
      (∀ g, one.2.ledger.group? g = other.2.ledger.group? g) ∧
      (∀ g, one.2.ledger.rulesFor g = other.2.ledger.rulesFor g) ∧
      one.2.maxSpan = other.2.maxSpan ∧
      ∃ entries : List Reservation, entries.Sublist [b.reservation, b'.reservation] ∧
        one.2.ledger.log.toList = d.ledger.log.toList ++ entries ∧
        other.2.ledger.log.toList = d.ledger.log.toList ++ entries.reverse := by
  constructor
  · intro cs cs' user h g
    have hl := Ledger.isIndexed_ofChanges cs
    have hl' := Ledger.isIndexed_ofChanges cs'
    exact ⟨h.reservationsFor_eq hl hl' g, h.admission_eq hl hl' g⟩
  · rintro d b b' ⟨cs, hcs⟩ hne one other
    have hd : d.ledger.IsIndexed := hcs ▸ Ledger.isIndexed_ofChanges cs
    have hone : one.2.ledger.IsIndexed := Desk.isIndexed_serve _ hd
    have hother : other.2.ledger.IsIndexed := Desk.isIndexed_serve _ hd
    obtain ⟨hanswers, htaken, hsame⟩ := Desk.serve_swap hd hne
    have hb := hsame b.reservation.user
    refine ⟨hanswers, fun user g => (hsame user).ledger.reservationsFor_eq hone hother g,
      fun user g => (hsame user).ledger.admission_eq hone hother g, hb.ledger.groups,
      hb.ledger.rules, hb.maxSpan, (d.taken [b, b']).map Bid.reservation, ?_,
      Desk.log_serve _ d, ?_⟩
    · exact (Desk.taken_sublist d [b, b']).map Bid.reservation
    · rw [Desk.log_serve, htaken, List.map_reverse]

/-- The user has had a night. -/
def Ledger.quiet : List Ledger.Change :=
  Ledger.parking ++ [.reservation (Bid.night (.ofNat 4)).reservation]

/-- Before and after that another user has been there. -/
def Ledger.busy : List Ledger.Change :=
  Ledger.parking ++ [.reservation (Bid.late (.ofNat 6)).reservation,
    .reservation (Bid.night (.ofNat 4)).reservation,
    .reservation (Bid.night (.ofNat 6)).reservation]

theorem Desk.users_do_not_interfere_parking :
    (Ledger.ofChanges Ledger.quiet).SameFor (.ofNat 4) (Ledger.ofChanges Ledger.busy) ∧
    (Ledger.ofChanges Ledger.quiet).positionsOf (.ofNat 4) = [0] ∧
    (Ledger.ofChanges Ledger.busy).positionsOf (.ofNat 4) = [1] ∧
    (Ledger.ofChanges Ledger.busy).admission (.ofNat 4) (.ofNat 1) 1672945200000 1672988400000 =
      .rejected (.ofNat 3) ∧
    ((Desk.ofLedger (Ledger.ofChanges Ledger.busy)).serve
      [.night (.ofNat 4), .night (.ofNat 8)]).1 = [some (.rejected (.ofNat 3)), none] ∧
    ((Desk.ofLedger (Ledger.ofChanges Ledger.busy)).serve
      [.night (.ofNat 8), .night (.ofNat 4)]).1 = [none, some (.rejected (.ofNat 3))] := by
  have hsame : (Ledger.ofChanges Ledger.quiet).SameFor (.ofNat 4) (Ledger.ofChanges Ledger.busy) :=
    ⟨fun _ => rfl, fun _ => rfl, by decide +kernel⟩
  have hquiet : (Ledger.ofChanges Ledger.quiet).admission (.ofNat 4) (.ofNat 1) 1672945200000
      1672988400000 = .rejected (.ofNat 3) := by
    decide +kernel
  have hone : ((Desk.ofLedger (Ledger.ofChanges Ledger.busy)).serve
      [.night (.ofNat 4), .night (.ofNat 8)]).1 = [some (.rejected (.ofNat 3)), none] := by
    decide +kernel
  obtain ⟨hledgers, hbids⟩ := Desk.users_do_not_interfere
  have hadmission := (hledgers _ _ _ hsame (.ofNat 1)).2 1672945200000 1672988400000
  have hother := (hbids (Desk.ofLedger (Ledger.ofChanges Ledger.busy)) (.night (.ofNat 4))
    (.night (.ofNat 8)) ⟨Ledger.busy, rfl⟩ (by decide)).1
  refine ⟨hsame, by decide +kernel, by decide +kernel, hadmission ▸ hquiet, hone, ?_⟩
  rw [hother, hone]
  rfl

end Booking
