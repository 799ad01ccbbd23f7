import Booking.Proofs.Ledger.Index
/-!
# Ledgers as a user sees them

All that a user is told comes from the groups, the rules and the user's own part of the log. Two
ledgers that agree in these are the same for the user (`Ledger.SameFor`): they answer the user alike,
and the entries of other users leave them the same.
-/
namespace Booking

/-- **The ledgers are the same for the user**: they have the same groups and rules, and the same
entries of the user in the same order, at whatever positions of their logs. -/
structure Ledger.SameFor (user : Ident) (l l' : Ledger) : Prop where
  groups : ∀ g, l.group? g = l'.group? g
  rules : ∀ g, l.rulesFor g = l'.rulesFor g
  own : l.log.toList.filter (fun r => r.user == user) =
    l'.log.toList.filter (fun r => r.user == user)

section

variable {user : Ident} {l l' : Ledger}

theorem Ledger.SameFor.refl (user : Ident) (l : Ledger) : l.SameFor user l :=
  ⟨fun _ => rfl, fun _ => rfl, rfl⟩

theorem Ledger.SameFor.symm (h : l.SameFor user l') : l'.SameFor user l :=
  ⟨fun g => (h.groups g).symm, fun g => (h.rules g).symm, h.own.symm⟩

theorem Ledger.SameFor.trans {l'' : Ledger} (h : l.SameFor user l') (h' : l'.SameFor user l'') :
    l.SameFor user l'' :=
  ⟨fun g => (h.groups g).trans (h'.groups g), fun g => (h.rules g).trans (h'.rules g),
    h.own.trans h'.own⟩

/-! ## What the user is told -/

theorem Ledger.SameFor.reservationsFor_eq (h : l.SameFor user l') (hl : l.IsIndexed)
    (hl' : l'.IsIndexed) (g : Ident) : l.reservationsFor user g = l'.reservationsFor user g := by
  have hsearch : ∀ {m : Ledger}, m.IsIndexed → m.reservationsFor user g =
      (m.log.toList.filter (fun r => r.user == user)).filter (fun r => m.lists g r.resource) := by
    intro m hm
    rw [Ledger.reservationsFor_eq hm, List.filter_filter]
    exact List.filter_congr (fun r _ => Bool.and_comm _ _)
  rw [hsearch hl, hsearch hl', h.own]
  refine List.filter_congr (fun r _ => ?_)
  rw [Ledger.lists, h.groups, Ledger.lists]

theorem Ledger.SameFor.admission_eq (h : l.SameFor user l') (hl : l.IsIndexed)
    (hl' : l'.IsIndexed) (g : Ident) (start stop : Int) :
    l.admission user g start stop = l'.admission user g start stop := by
  unfold Ledger.admission
  rw [h.groups, h.rules, h.reservationsFor_eq hl hl']

theorem Ledger.SameFor.refusal?_eq {r : Reservation} (h : l.SameFor r.user l') (hl : l.IsIndexed)
    (hl' : l'.IsIndexed) (g : Ident) : l.refusal? g r = l'.refusal? g r := by
  unfold Ledger.refusal?
  rw [h.groups, h.admission_eq hl hl']

/-! ## What entries do -/

/-- The same entry on both sides is seen alike. -/
theorem Ledger.SameFor.addReservation (h : l.SameFor user l') (r : Reservation) :
    (l.addReservation r).SameFor user (l'.addReservation r) where
  groups := h.groups
  rules := h.rules
  own := by
    simp only [Ledger.addReservation, Array.toList_push, List.filter_append, h.own]

/-- The entry of another user is not seen. -/
theorem Ledger.SameFor.addReservation_of_ne (h : l.SameFor user l') {r : Reservation}
    (hr : r.user ≠ user) : (l.addReservation r).SameFor user l' where
  groups := h.groups
  rules := h.rules
  own := by
    simp only [Ledger.addReservation, Array.toList_push, List.filter_append, ← h.own]
    simp [hr]

/-- **A new entry changes no decision about another user.** -/
theorem Ledger.refusal?_addReservation_of_ne {r r' : Reservation} (h : l.IsIndexed)
    (hr : r.user ≠ r'.user) (g : Ident) : (l.addReservation r).refusal? g r' = l.refusal? g r' :=
  ((Ledger.SameFor.refl r'.user l).addReservation_of_ne hr).refusal?_eq (h.addReservation r) h g

end

end Booking
