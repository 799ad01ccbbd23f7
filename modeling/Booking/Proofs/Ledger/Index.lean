import Booking.Desk.Basic
/-!
# The register of positions

The ledger finds a user's reservations through the positions that it keeps for the user. Whatever
changes are made, each position lies in the log and the positions of a user point at the user's
part of the log (`Ledger.isIndexed_ofChanges`), so that a search through the register is a search
through the log (`Ledger.reservationsFor_eq`).
-/
namespace Booking

/-- The positions that the ledger keeps for the user. -/
def Ledger.positionsOf (l : Ledger) (user : Ident) : List Nat :=
  ((l.positions.get? user).getD #[]).toList

/-- **The register of positions is in order**: it points into the log, and for each user at the
user's part of it. -/
structure Ledger.IsIndexed (l : Ledger) : Prop where
  inLog : ∀ user, ∀ i ∈ l.positionsOf user, i < l.log.size
  complete : ∀ user, l.reservationsOf user = l.log.toList.filter (fun r => r.user == user)

theorem Ledger.reservationsOf_eq_filterMap (l : Ledger) (user : Ident) :
    l.reservationsOf user = (l.positionsOf user).filterMap (fun i => l.log[i]?) := rfl

@[simp] theorem Ledger.group?_addReservation (l : Ledger) (r : Reservation) (g : Ident) :
    (l.addReservation r).group? g = l.group? g := rfl

@[simp] theorem Ledger.rulesFor_addReservation (l : Ledger) (r : Reservation) (g : Ident) :
    (l.addReservation r).rulesFor g = l.rulesFor g := rfl

theorem Ledger.positionsOf_addReservation (l : Ledger) (r : Reservation) (user : Ident) :
    (l.addReservation r).positionsOf user =
      if user = r.user then l.positionsOf user ++ [l.log.size] else l.positionsOf user := by
  unfold Ledger.positionsOf Ledger.addReservation
  simp only [Register.get?_alter]
  by_cases h : user = r.user
  · subst h; simp
  · simp [h]

/-- Positions in the log read the same after one more entry. -/
theorem Ledger.filterMap_push_of_lt (log : Array Reservation) (r : Reservation) :
    ∀ (is : List Nat), (∀ i ∈ is, i < log.size) →
      is.filterMap (fun i => (log.push r)[i]?) = is.filterMap (fun i => log[i]?)
  | [], _ => rfl
  | i :: is, h => by
    have hi : i ≠ log.size := by have := h i (by simp); omega
    rw [List.filterMap_cons, List.filterMap_cons, Array.getElem?_push, if_neg hi,
      Ledger.filterMap_push_of_lt log r is (fun j hj => h j (by simp [hj]))]

theorem Ledger.isIndexed_empty : ({} : Ledger).IsIndexed where
  inLog user i hi := by simp [Ledger.positionsOf] at hi
  complete user := by simp [Ledger.reservationsOf]

theorem Ledger.IsIndexed.addReservation {l : Ledger} (h : l.IsIndexed) (r : Reservation) :
    (l.addReservation r).IsIndexed where
  inLog user i hi := by
    have hsize : (l.addReservation r).log.size = l.log.size + 1 := by simp [Ledger.addReservation]
    rw [Ledger.positionsOf_addReservation] at hi
    rw [hsize]
    split at hi
    · rcases List.mem_append.1 hi with hi | hi
      · have := h.inLog user i hi; omega
      · have := List.mem_singleton.1 hi; omega
    · have := h.inLog user i hi; omega
  complete user := by
    have hold : (l.positionsOf user).filterMap (fun i => (l.log.push r)[i]?) =
        l.log.toList.filter (fun r => r.user == user) := by
      rw [Ledger.filterMap_push_of_lt l.log r _ (h.inLog user), ← h.complete user]
      rfl
    rw [Ledger.reservationsOf_eq_filterMap, Ledger.positionsOf_addReservation]
    show List.filterMap (fun i => (l.log.push r)[i]?) _ = (l.log.push r).toList.filter _
    rw [Array.toList_push, List.filter_append]
    by_cases hu : user = r.user
    · subst hu
      rw [if_pos rfl, List.filterMap_append, hold]
      simp
    · rw [if_neg hu, hold]
      simp [Ne.symm hu]

theorem Ledger.IsIndexed.apply {l : Ledger} (h : l.IsIndexed) :
    ∀ (c : Ledger.Change), (l.apply c).IsIndexed
  | .group _ => ⟨h.inLog, h.complete⟩
  | .resource _ _ => ⟨h.inLog, h.complete⟩
  | .reservation r => h.addReservation r
  | .rule _ => ⟨h.inLog, h.complete⟩

theorem Ledger.IsIndexed.foldl : ∀ (cs : List Ledger.Change) {l : Ledger}, l.IsIndexed →
    (cs.foldl Ledger.apply l).IsIndexed
  | [], _, h => h
  | c :: cs, _, h => Ledger.IsIndexed.foldl cs (h.apply c)

/-- **Whatever the changes, the register of positions is in order.** -/
theorem Ledger.isIndexed_ofChanges (cs : List Ledger.Change) : (Ledger.ofChanges cs).IsIndexed :=
  Ledger.IsIndexed.foldl cs Ledger.isIndexed_empty

/-- The group is registered and lists the resource. -/
def Ledger.lists (l : Ledger) (g resource : Ident) : Bool :=
  (l.group? g).any (fun group => group.resources.contains resource)

theorem Ledger.lists_eq_true_iff {l : Ledger} {g resource : Ident} :
    l.lists g resource = true ↔ ∃ group, l.group? g = some group ∧ resource ∈ group.resources := by
  unfold Ledger.lists
  cases l.group? g <;> simp

@[simp] theorem Ledger.lists_addReservation (l : Ledger) (r : Reservation) (g resource : Ident) :
    (l.addReservation r).lists g resource = l.lists g resource := rfl

/-- **The search through the register is the search through the log.** -/
theorem Ledger.reservationsFor_eq {l : Ledger} (h : l.IsIndexed) (user g : Ident) :
    l.reservationsFor user g =
      l.log.toList.filter (fun r => r.user == user && l.lists g r.resource) := by
  unfold Ledger.reservationsFor Ledger.lists
  cases l.group? g with
  | none => simp
  | some group =>
    simp only [Option.any_some]
    rw [h.complete user, List.filter_filter]
    exact List.filter_congr (fun r _ => Bool.and_comm _ _)

/-! ## One more entry -/

/-- **A new entry comes last among its user's in the groups that list its resource**, and is seen
nowhere else. -/
theorem Ledger.reservationsFor_addReservation {l : Ledger} (h : l.IsIndexed) (r : Reservation)
    (user g : Ident) :
    (l.addReservation r).reservationsFor user g =
      l.reservationsFor user g ++
        if r.user == user && l.lists g r.resource then [r] else [] := by
  rw [Ledger.reservationsFor_eq (h.addReservation r), Ledger.reservationsFor_eq h]
  show List.filter _ (l.log.push r).toList = _
  rw [Array.toList_push, List.filter_append]
  simp [List.filter_cons]

end Booking
