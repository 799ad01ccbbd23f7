import Booking.Proofs.Ledger.History
import Mathlib.Data.List.Basic
/-!
# Growing ledgers

No change takes anything away from a ledger: entries, rules and the resources of a group are only
ever added at the end. A user's reservations in a group become more and not fewer, so a rule that
does not allow a booking will not allow it later, and a rejected booking stays rejected, by the same
rule or by one before it (`Ledger.RejectedAt.of_grows`).
-/
namespace Booking

/-- **`l'` has all that `l` has**, in the same order, and what is new comes last. -/
structure Ledger.Grows (l l' : Ledger) : Prop where
  log : l.log.toList <+: l'.log.toList
  rules : ∀ g, l.rulesFor g <+: l'.rulesFor g
  groups : ∀ g group, l.group? g = some group →
    ∃ group', l'.group? g = some group' ∧ group.resources <+: group'.resources

theorem Ledger.grows_foldl (cs : List Ledger.Change) (l : Ledger) :
    l.Grows (cs.foldl Ledger.apply l) where
  log := by
    rw [Ledger.log_foldl]
    exact List.prefix_append _ _
  rules g := by
    rw [Ledger.rulesFor_foldl]
    exact List.prefix_append _ _
  groups g group h := by
    rw [Ledger.group?_foldl, h]
    exact ⟨_, rfl, List.prefix_append _ _⟩

section

variable {l l' : Ledger}

theorem Ledger.Grows.isSome_group? (h : l.Grows l') {g : Ident} (hg : (l.group? g).isSome) :
    (l'.group? g).isSome := by
  obtain ⟨group, hgroup⟩ := Option.isSome_iff_exists.1 hg
  obtain ⟨group', hgroup', -⟩ := h.groups g group hgroup
  rw [hgroup']
  rfl

theorem Ledger.Grows.lists (h : l.Grows l') {g resource : Ident}
    (hl : l.lists g resource = true) : l'.lists g resource = true := by
  obtain ⟨group, hgroup, hmem⟩ := Ledger.lists_eq_true_iff.1 hl
  obtain ⟨group', hgroup', hresources⟩ := h.groups g group hgroup
  exact Ledger.lists_eq_true_iff.2 ⟨group', hgroup', hresources.subset hmem⟩

/-- A user's reservations in a group are still there, in the same order. -/
theorem Ledger.Grows.reservationsFor_sublist (h : l.Grows l') (hl : l.IsIndexed)
    (hl' : l'.IsIndexed) (user g : Ident) :
    (l.reservationsFor user g).Sublist (l'.reservationsFor user g) := by
  rw [Ledger.reservationsFor_eq hl, Ledger.reservationsFor_eq hl']
  refine (h.log.sublist.filter _).trans (List.monotone_filter_right _ (fun r hr => ?_))
  simp only [Bool.and_eq_true] at hr ⊢
  exact ⟨hr.1, h.lists hr.2⟩

end

/-- With fewer reservations a rule allows no less. -/
theorem Rule.allows_of_sublist {rule : Rule} {existing existing' : List Reservation}
    {user : Ident} {start stop : Int} (h : existing.Sublist existing')
    (ha : rule.allows existing' user start stop = true) :
    rule.allows existing user start stop = true := by
  simp only [Rule.allows, Bool.and_eq_true, decide_eq_true_eq] at ha ⊢
  exact ⟨ha.1, Nat.lt_of_le_of_lt (h.countP_le) ha.2⟩

/-! ## Rejections -/

/-- **The booking is rejected by the rule at position `i`** of the group's rules: it is the first that
does not allow it. -/
def Ledger.RejectedAt (l : Ledger) (user g : Ident) (start stop : Int) (i : Nat) : Prop :=
  ∃ pre rule post, l.rulesFor g = pre ++ rule :: post ∧ pre.length = i ∧
    l.admission user g start stop = .rejected rule.id ∧
    (∀ q ∈ pre, q.allows (l.reservationsFor user g) user start stop = true) ∧
    rule.allows (l.reservationsFor user g) user start stop = false

section

variable {l l' : Ledger} {user g : Ident} {start stop : Int}

theorem Ledger.exists_rejectedAt {id : Ident}
    (h : l.admission user g start stop = .rejected id) :
    ∃ i, l.RejectedAt user g start stop i := by
  obtain ⟨-, pre, rule, post, heq, hpre, hrule, rfl⟩ :=
    (l.admission_eq_rejected_iff user g start stop id).1 h
  exact ⟨pre.length, pre, rule, post, heq, rfl, h, hpre, hrule⟩

theorem Ledger.Grows.admission_ne_unknownGroup (h : l.Grows l')
    (ha : l.admission user g start stop ≠ .unknownGroup) :
    ∀ user start stop, l'.admission user g start stop ≠ .unknownGroup := by
  have hg : (l.group? g).isSome := Option.isSome_iff_ne_none.2 (fun hnone =>
    ha ((l.admission_eq_unknownGroup_iff _ _ _ _).2 hnone))
  intro user start stop hunknown
  have hnone := (l'.admission_eq_unknownGroup_iff _ _ _ _).1 hunknown
  have hsome := h.isSome_group? hg
  rw [hnone] at hsome
  cases hsome

/-- **A rejected booking stays rejected**, by a rule that stands no further back. -/
theorem Ledger.RejectedAt.of_grows {i : Nat} (hi : l.RejectedAt user g start stop i)
    (h : l.Grows l') (hl : l.IsIndexed) (hl' : l'.IsIndexed) :
    ∃ j ≤ i, l'.RejectedAt user g start stop j := by
  obtain ⟨pre, rule, post, heq, rfl, hreject, -, hrule⟩ := hi
  obtain ⟨more, hmore⟩ := h.rules g
  rw [heq, List.append_assoc, List.cons_append] at hmore
  have hsublist := h.reservationsFor_sublist hl hl' user g
  have hrule' : rule.allows (l'.reservationsFor user g) user start stop = false := by
    rw [← Bool.not_eq_true] at hrule ⊢
    exact fun ha => hrule (Rule.allows_of_sublist hsublist ha)
  cases ha : l'.admission user g start stop with
  | unknownGroup =>
    have hknown : l.admission user g start stop ≠ .unknownGroup := by simp [hreject]
    exact absurd ha (h.admission_ne_unknownGroup hknown user start stop)
  | admitted =>
    have hall := ((l'.admission_eq_admitted_iff user g start stop).1 ha).2 rule
      (by rw [← hmore]; simp)
    rw [hall] at hrule'
    cases hrule'
  | rejected id =>
    obtain ⟨-, pre', rule', post', heq', hpre', hfirst, hid⟩ :=
      (l'.admission_eq_rejected_iff user g start stop id).1 ha
    refine ⟨pre'.length, Nat.not_lt.1 (fun hlt => ?_), pre', rule', post', heq', rfl, ?_, hpre',
      hfirst⟩
    · -- the old rule would stand before the one that rejects, and allow the booking
      have hmem : rule ∈ pre' := by
        refine List.mem_of_getElem? (i := pre.length) ?_
        rw [← List.getElem?_append_left hlt, ← heq', ← hmore]
        simp
      rw [hpre' rule hmem] at hrule'
      cases hrule'
    · rw [ha, hid]

end

end Booking
