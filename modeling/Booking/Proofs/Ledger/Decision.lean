import Booking.Ledger.Basic
/-!
# The three decisions

When an admission is refused for want of a group, when a rule rejects it, and when it is granted:
the first rule that does not allow it decides.
-/
namespace Booking

theorem Admission.isAdmitted_iff {a : Admission} : a.isAdmitted = true ↔ a = .admitted := by
  cases a <;> simp [Admission.isAdmitted]

theorem Ledger.admission_eq_unknownGroup_iff (l : Ledger) (user g : Ident) (start stop : Int) :
    l.admission user g start stop = .unknownGroup ↔ l.group? g = none := by
  unfold Ledger.admission
  cases l.group? g with
  | none => simp
  | some group =>
    simp only [reduceCtorEq, iff_false]
    split <;> simp

/-- **The rule that rejects is the first that does not allow the booking.** -/
theorem Ledger.admission_eq_rejected_iff (l : Ledger) (user g : Ident) (start stop : Int)
    (id : Ident) :
    l.admission user g start stop = .rejected id ↔
      (l.group? g).isSome ∧ ∃ pre rule post, l.rulesFor g = pre ++ rule :: post ∧
        (∀ q ∈ pre, q.allows (l.reservationsFor user g) user start stop = true) ∧
        rule.allows (l.reservationsFor user g) user start stop = false ∧ rule.id = id := by
  unfold Ledger.admission
  cases l.group? g with
  | none => simp
  | some group =>
    simp only [Option.isSome_some, true_and]
    constructor
    · intro h
      split at h
      · cases h
      · rename_i rule hfind
        obtain ⟨hrule, pre, post, heq, hpre⟩ := List.find?_eq_some_iff_append.1 hfind
        refine ⟨pre, rule, post, heq, fun q hq => ?_, by simpa using hrule, by cases h; rfl⟩
        simpa using hpre q hq
    · rintro ⟨pre, rule, post, heq, hpre, hrule, rfl⟩
      have hfind : (l.rulesFor g).find?
          (fun rule => !rule.allows (l.reservationsFor user g) user start stop) = some rule :=
        List.find?_eq_some_iff_append.2
          ⟨by simp [hrule], pre, post, heq, fun q hq => by simp [hpre q hq]⟩
      simp [hfind]

theorem Ledger.admission_eq_admitted_iff (l : Ledger) (user g : Ident) (start stop : Int) :
    l.admission user g start stop = .admitted ↔
      (l.group? g).isSome ∧ ∀ rule ∈ l.rulesFor g,
        rule.allows (l.reservationsFor user g) user start stop = true := by
  unfold Ledger.admission
  cases l.group? g with
  | none => simp
  | some group =>
    simp only [Option.isSome_some, true_and]
    constructor
    · intro h rule hrule
      split at h
      · rename_i hfind
        simpa using List.find?_eq_none.1 hfind rule hrule
      · cases h
    · intro h
      have hfind : (l.rulesFor g).find?
          (fun rule => !rule.allows (l.reservationsFor user g) user start stop) = none :=
        List.find?_eq_none.2 (fun rule hrule => by simp [h rule hrule])
      simp [hfind]

end Booking
