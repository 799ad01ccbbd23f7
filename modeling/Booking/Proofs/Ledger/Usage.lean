import Booking.Proofs.Ledger.Decision
import Booking.Proofs.Ledger.Index
/-!
# What is used of a limit

A rule counts the reservations that its window accepts at both ends. `Ledger.used` is their number
for one user and one group, which can be counted in the log as well (`Ledger.used_eq_countP`), and an
admission is granted when every rule of the group accepts the range and has some of its limit left.
-/
namespace Booking

/-- How much of the rule's limit the user's reservations in the group take up. -/
def Ledger.used (l : Ledger) (rule : Rule) (user g : Ident) : Nat :=
  (l.reservationsFor user g).countP rule.counts

/-- The rule counts the reservation among those of the user in the group. -/
def Ledger.countsIn (l : Ledger) (rule : Rule) (user g : Ident) (r : Reservation) : Bool :=
  rule.counts r && (r.user == user && l.lists g r.resource)

theorem Ledger.used_eq_countP {l : Ledger} (h : l.IsIndexed) (rule : Rule) (user g : Ident) :
    l.used rule user g = l.log.toList.countP (l.countsIn rule user g) := by
  rw [Ledger.used, Ledger.reservationsFor_eq h, List.countP_filter]
  rfl

/-- The rule need not look at the users of reservations that are all the user's own. -/
theorem Ledger.countP_reservationsFor {l : Ledger} (h : l.IsIndexed) (rule : Rule)
    (user g : Ident) :
    (l.reservationsFor user g).countP (fun r => rule.counts r && r.user == user) =
      l.used rule user g := by
  apply List.countP_congr
  intro r hr
  rw [Ledger.reservationsFor_eq h] at hr
  have hu := (List.mem_filter.1 hr).2
  simp only [Bool.and_eq_true] at hu
  simp [hu.1]

theorem Ledger.allows_iff {l : Ledger} (h : l.IsIndexed) (rule : Rule) (user g : Ident)
    (start stop : Int) :
    rule.allows (l.reservationsFor user g) user start stop = true ↔
      rule.window.acceptsRange start stop = true ∧ l.used rule user g < rule.limit := by
  simp [Rule.allows, Ledger.countP_reservationsFor h]

/-- **An admission is granted where every rule accepts the range and has some of its limit left.** -/
theorem Ledger.admission_eq_admitted_iff_used {l : Ledger} (h : l.IsIndexed) (user g : Ident)
    (start stop : Int) :
    l.admission user g start stop = .admitted ↔
      (l.group? g).isSome ∧ ∀ rule ∈ l.rulesFor g,
        rule.window.acceptsRange start stop = true ∧ l.used rule user g < rule.limit := by
  simp [Ledger.admission_eq_admitted_iff, Ledger.allows_iff h]

/-- A new entry takes up one if it is the user's, on a resource of the group, and counted. -/
theorem Ledger.used_addReservation {l : Ledger} (h : l.IsIndexed) (r : Reservation) (rule : Rule)
    (user g : Ident) :
    (l.addReservation r).used rule user g =
      l.used rule user g +
        if r.user = user ∧ l.lists g r.resource = true ∧ rule.counts r = true then 1 else 0 := by
  unfold Ledger.used
  rw [Ledger.reservationsFor_addReservation h, List.countP_append]
  by_cases hu : r.user = user <;> by_cases hg : l.lists g r.resource = true <;>
    simp [hu, hg, List.countP_cons]

/-- The refusal that the decision stands for. -/
def Admission.refusal? (g : Ident) : Admission → Option Refusal
  | .admitted => none
  | .unknownGroup => some (.unknownGroup g)
  | .rejected rule => some (.rejected rule)

/-- In a group that lists the resource, a reservation is kept out by the admission only. -/
theorem Ledger.refusal?_of_lists {l : Ledger} {g : Ident} {r : Reservation}
    (h : l.lists g r.resource = true) :
    l.refusal? g r = (l.admission r.user g r.start r.stop).refusal? g := by
  obtain ⟨group, hgroup, hresource⟩ := Ledger.lists_eq_true_iff.1 h
  have hcontains : group.resources.contains r.resource = true := List.contains_iff_mem.2 hresource
  unfold Ledger.refusal?
  cases l.admission r.user g r.start r.stop <;>
    simp [hgroup, hcontains, Admission.refusal?, -List.contains_eq_mem]

theorem Ledger.refusal?_of_not_lists {l : Ledger} {g : Ident} {r : Reservation}
    (h : ¬ l.lists g r.resource = true) :
    l.refusal? g r = some (.unknownGroup g) ∨ l.refusal? g r = some (.notInGroup r.resource g) := by
  unfold Ledger.lists at h
  unfold Ledger.refusal?
  cases hgroup : l.group? g with
  | none => exact .inl rfl
  | some group =>
    rw [hgroup, Option.any_some, Bool.not_eq_true] at h
    exact .inr (by simp only [h, Bool.not_false, if_true])

/-- What keeps a reservation out: the group does not list its resource, or it is not admitted. -/
theorem Ledger.refusal?_eq_none_iff (l : Ledger) (g : Ident) (r : Reservation) :
    l.refusal? g r = none ↔
      l.lists g r.resource = true ∧ l.admission r.user g r.start r.stop = .admitted := by
  by_cases h : l.lists g r.resource = true
  · rw [Ledger.refusal?_of_lists h, and_iff_right h]
    cases l.admission r.user g r.start r.stop <;> simp [Admission.refusal?]
  · rcases Ledger.refusal?_of_not_lists h with ha | ha <;> simp [ha, h]

theorem Ledger.refusal?_eq_rejected_iff (l : Ledger) (g : Ident) (r : Reservation) (id : Ident) :
    l.refusal? g r = some (.rejected id) ↔
      l.lists g r.resource = true ∧ l.admission r.user g r.start r.stop = .rejected id := by
  by_cases h : l.lists g r.resource = true
  · rw [Ledger.refusal?_of_lists h, and_iff_right h]
    cases l.admission r.user g r.start r.stop <;> simp [Admission.refusal?]
  · rcases Ledger.refusal?_of_not_lists h with ha | ha <;> simp [ha, h]

/-- **When a reservation is let in**: the group lists its resource, and every rule of the group accepts
the range and has some of its limit left. -/
theorem Ledger.refusal?_eq_none_iff_used {l : Ledger} (h : l.IsIndexed) (g : Ident)
    (r : Reservation) :
    l.refusal? g r = none ↔
      l.lists g r.resource = true ∧ ∀ rule ∈ l.rulesFor g,
        rule.window.acceptsRange r.start r.stop = true ∧ l.used rule r.user g < rule.limit := by
  rw [Ledger.refusal?_eq_none_iff, Ledger.admission_eq_admitted_iff_used h]
  refine and_congr_right (fun hlists => and_iff_right ?_)
  obtain ⟨group, hgroup, -⟩ := Ledger.lists_eq_true_iff.1 hlists
  rw [hgroup]
  rfl

end Booking
