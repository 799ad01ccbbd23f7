import Booking.Proofs.Ledger.Decision
import Booking.Proofs.Ledger.Index
/-!
# The history of a ledger

A ledger could do without its registers and keep only the changes that were made to it. What each
question would then be answered with is written down here, straight from the list of changes, and
`Ledger.agrees_with_history` says that the registers answer the same.
-/
namespace Booking

def Ledger.Change.reservation? : Ledger.Change → Option Reservation
  | .reservation r => some r
  | _ => none

def Ledger.Change.rule? : Ledger.Change → Option Rule
  | .rule q => some q
  | _ => none

/-- The resource that the change adds to the group. -/
def Ledger.Change.resourceFor? (g : Ident) : Ledger.Change → Option Ident
  | .resource g' r => if g' = g then some r else none
  | _ => none

namespace History

/-- Every reservation that was added. -/
def log (cs : List Ledger.Change) : List Reservation := cs.filterMap Ledger.Change.reservation?

/-- Every rule that was added for the group, at whatever time. -/
def rulesFor (g : Ident) (cs : List Ledger.Change) : List Rule :=
  (cs.filterMap Ledger.Change.rule?).filter (fun rule => rule.group = g)

/-- The first group that was added under the identifier, with the resources added to it since. -/
def group? (g : Ident) : List Ledger.Change → Option Group
  | [] => none
  | .group group :: cs =>
    if group.id = g then
      some { group with
        resources := group.resources ++ cs.filterMap (Ledger.Change.resourceFor? g) }
    else group? g cs
  | _ :: cs => group? g cs

/-- The entries of the whole log that are the user's and book a resource of the group. -/
def reservationsFor (user g : Ident) (cs : List Ledger.Change) : List Reservation :=
  match group? g cs with
  | none => []
  | some group => (log cs).filter (fun r => r.user = user ∧ r.resource ∈ group.resources)

/-- Some group was added under the identifier. -/
def registers (g : Ident) (cs : List Ledger.Change) : Prop :=
  ∃ group, Ledger.Change.group group ∈ cs ∧ group.id = g

theorem group?_isSome_iff (g : Ident) : ∀ (cs : List Ledger.Change),
    (group? g cs).isSome ↔ registers g cs
  | [] => by simp [group?, registers]
  | .group group :: cs => by
    have ih := group?_isSome_iff g cs
    unfold group?
    by_cases h : group.id = g
    · simp [h, registers]
    · simp only [h, if_false, ih, registers, List.mem_cons, Ledger.Change.group.injEq]
      constructor
      · rintro ⟨old, hm, hid⟩
        exact ⟨old, Or.inr hm, hid⟩
      · rintro ⟨old, rfl | hm, hid⟩
        · exact absurd hid h
        · exact ⟨old, hm, hid⟩
  | .resource _ _ :: cs => by
    have ih := group?_isSome_iff g cs
    simpa [group?, registers] using ih
  | .reservation _ :: cs => by
    have ih := group?_isSome_iff g cs
    simpa [group?, registers] using ih
  | .rule _ :: cs => by
    have ih := group?_isSome_iff g cs
    simpa [group?, registers] using ih

theorem group?_map_group (g : Ident) : ∀ (groups : List Group),
    group? g (groups.map Ledger.Change.group) = groups.find? (fun group => group.id = g)
  | [] => rfl
  | group :: groups => by
    rw [List.map_cons, group?, List.find?_cons]
    by_cases h : group.id = g
    · have hnone : (groups.map Ledger.Change.group).filterMap (Ledger.Change.resourceFor? g) = [] := by
        simp [Ledger.Change.resourceFor?]
      rw [if_pos h, hnone, List.append_nil, decide_eq_true h]
    · simp [h, group?_map_group g groups]

end History

/-! ## From any ledger on -/

theorem Ledger.log_foldl : ∀ (cs : List Ledger.Change) (l : Ledger),
    (cs.foldl Ledger.apply l).log.toList = l.log.toList ++ History.log cs
  | [], l => by simp [History.log]
  | c :: cs, l => by
    rw [List.foldl_cons, Ledger.log_foldl cs (l.apply c)]
    cases c with
    | reservation r =>
      simp [History.log, Ledger.apply, Ledger.addReservation, Ledger.Change.reservation?]
    | group _ => rfl
    | resource _ _ => rfl
    | rule _ => rfl

theorem Ledger.rulesFor_addRule (l : Ledger) (rule : Rule) (g : Ident) :
    (l.addRule rule).rulesFor g = l.rulesFor g ++ if rule.group = g then [rule] else [] := by
  unfold Ledger.rulesFor Ledger.addRule
  simp only [Register.get?_alter]
  by_cases h : g = rule.group
  · subst h; simp
  · simp [h, Ne.symm h]

theorem Ledger.rulesFor_foldl (g : Ident) : ∀ (cs : List Ledger.Change) (l : Ledger),
    (cs.foldl Ledger.apply l).rulesFor g = l.rulesFor g ++ History.rulesFor g cs
  | [], l => by simp [History.rulesFor]
  | c :: cs, l => by
    rw [List.foldl_cons, Ledger.rulesFor_foldl g cs (l.apply c)]
    cases c with
    | rule rule =>
      simp only [Ledger.apply, Ledger.rulesFor_addRule, History.rulesFor, List.append_assoc]
      by_cases h : rule.group = g <;> simp [Ledger.Change.rule?, h]
    | group _ => rfl
    | resource _ _ => rfl
    | reservation _ => rfl

theorem Ledger.group?_addGroup (l : Ledger) (group : Group) (g : Ident) :
    (l.addGroup group).group? g =
      if group.id = g then some ((l.group? g).getD group) else l.group? g := by
  unfold Ledger.group? Ledger.addGroup
  rw [Register.get?_alter]
  by_cases h : group.id = g
  · subst h; simp
  · simp [h, Ne.symm h]

theorem Ledger.group?_addResource (l : Ledger) (g' resource g : Ident) :
    (l.addResource g' resource).group? g = (l.group? g).map (fun group =>
      { group with
        resources := group.resources ++
          ([Ledger.Change.resource g' resource].filterMap (Ledger.Change.resourceFor? g)) }) := by
  unfold Ledger.group? Ledger.addResource
  rw [Register.get?_alter]
  by_cases h : g' = g
  · subst h; simp [Ledger.Change.resourceFor?]
  · simp [h, Ne.symm h, Ledger.Change.resourceFor?]

/-- A registered group stays the first of its identifier and grows by what is added to it. -/
theorem Ledger.group?_foldl (g : Ident) : ∀ (cs : List Ledger.Change) (l : Ledger),
    (cs.foldl Ledger.apply l).group? g =
      match l.group? g with
      | some group => some { group with
          resources := group.resources ++ cs.filterMap (Ledger.Change.resourceFor? g) }
      | none => History.group? g cs
  | [], l => by cases h : l.group? g <;> simp [h, History.group?]
  | c :: cs, l => by
    rw [List.foldl_cons, Ledger.group?_foldl g cs (l.apply c)]
    cases c with
    | group group =>
      simp only [Ledger.apply, Ledger.group?_addGroup]
      cases l.group? g <;> by_cases h : group.id = g <;>
        simp [h, History.group?, List.filterMap_cons, Ledger.Change.resourceFor?]
    | resource g' resource =>
      simp only [Ledger.apply, Ledger.group?_addResource]
      cases hl : l.group? g with
      | none => simp [History.group?]
      | some group =>
        simp only [Option.map_some, List.append_assoc, ← List.filterMap_append,
          List.singleton_append]
    | reservation r =>
      simp only [Ledger.apply, Ledger.group?_addReservation, History.group?,
        List.filterMap_cons, Ledger.Change.resourceFor?]
    | rule rule =>
      show (match l.group? g with | some group => _ | none => _) = _
      simp only [History.group?, List.filterMap_cons, Ledger.Change.resourceFor?]

theorem Ledger.group?_foldl_of_keeps {g : Ident} {cs : List Ledger.Change} (l : Ledger)
    (h : ∀ c ∈ cs, ∀ l : Ledger, (l.apply c).group? g = l.group? g) :
    (cs.foldl Ledger.apply l).group? g = l.group? g :=
  List.foldlRecOn (motive := fun l' => l'.group? g = l.group? g) cs _ rfl
    (fun l' hl' c hc => (h c hc l').trans hl')

/-! ## From the empty ledger -/

theorem Ledger.log_ofChanges (cs : List Ledger.Change) :
    (Ledger.ofChanges cs).log.toList = History.log cs := by
  simp [Ledger.ofChanges, Ledger.log_foldl]

theorem Ledger.rulesFor_ofChanges (cs : List Ledger.Change) (g : Ident) :
    (Ledger.ofChanges cs).rulesFor g = History.rulesFor g cs := by
  rw [Ledger.ofChanges, Ledger.rulesFor_foldl]
  simp [Ledger.rulesFor]

theorem Ledger.group?_ofChanges (cs : List Ledger.Change) (g : Ident) :
    (Ledger.ofChanges cs).group? g = History.group? g cs := by
  rw [Ledger.ofChanges, Ledger.group?_foldl]
  simp [Ledger.group?]

theorem Ledger.reservationsFor_ofChanges (cs : List Ledger.Change) (user g : Ident) :
    (Ledger.ofChanges cs).reservationsFor user g = History.reservationsFor user g cs := by
  rw [Ledger.reservationsFor_eq (Ledger.isIndexed_ofChanges cs), Ledger.log_ofChanges]
  unfold Ledger.lists History.reservationsFor
  rw [Ledger.group?_ofChanges]
  cases History.group? g cs with
  | none => simp
  | some group => exact List.filter_congr (fun r _ => Bool.eq_iff_iff.2 (by simp))

/-- **The registers answer as the history does**, whatever changes were made in whatever order: the
log, the groups, the rules, a user's reservations in a group, and which of the three decisions an
admission gets. No position that the ledger keeps points outside the log. -/
theorem Ledger.agrees_with_history (cs : List Ledger.Change) :
    (Ledger.ofChanges cs).log.toList = History.log cs ∧
    (∀ g, (Ledger.ofChanges cs).group? g = History.group? g cs) ∧
    (∀ g, (Ledger.ofChanges cs).rulesFor g = History.rulesFor g cs) ∧
    (∀ user g, (Ledger.ofChanges cs).reservationsFor user g = History.reservationsFor user g cs) ∧
    (∀ user, ∀ i ∈ (Ledger.ofChanges cs).positionsOf user, i < (History.log cs).length) ∧
    ∀ user g start stop,
      ((Ledger.ofChanges cs).admission user g start stop = .unknownGroup ↔
        ¬ History.registers g cs) ∧
      (∀ id, (Ledger.ofChanges cs).admission user g start stop = .rejected id ↔
        History.registers g cs ∧ ∃ pre rule post, History.rulesFor g cs = pre ++ rule :: post ∧
          (∀ q ∈ pre, q.allows (History.reservationsFor user g cs) user start stop = true) ∧
          rule.allows (History.reservationsFor user g cs) user start stop = false ∧
          rule.id = id) ∧
      ((Ledger.ofChanges cs).admission user g start stop = .admitted ↔
        History.registers g cs ∧ ∀ rule ∈ History.rulesFor g cs,
          rule.allows (History.reservationsFor user g cs) user start stop = true) := by
  refine ⟨Ledger.log_ofChanges cs, Ledger.group?_ofChanges cs, Ledger.rulesFor_ofChanges cs,
    Ledger.reservationsFor_ofChanges cs, fun user i hi => ?_, fun user g start stop => ⟨?_, ?_, ?_⟩⟩
  · rw [← Ledger.log_ofChanges, Array.length_toList]
    exact (Ledger.isIndexed_ofChanges cs).inLog user i hi
  · rw [Ledger.admission_eq_unknownGroup_iff, Ledger.group?_ofChanges,
      ← History.group?_isSome_iff, Option.not_isSome_iff_eq_none]
  · intro id
    rw [Ledger.admission_eq_rejected_iff, Ledger.group?_ofChanges, Ledger.rulesFor_ofChanges,
      Ledger.reservationsFor_ofChanges, History.group?_isSome_iff]
  · rw [Ledger.admission_eq_admitted_iff, Ledger.group?_ofChanges, Ledger.rulesFor_ofChanges,
      Ledger.reservationsFor_ofChanges, History.group?_isSome_iff]

end Booking
