import Booking.Ident
/-!
# Registers

A register keeps one entry per identifier, in the order in which the entries
came. `Register.alter` is the only way to change one, and `Register.get?_alter`
is all that anyone needs to know of it: the entry at the identifier changes as
told, and no other entry does.
-/
namespace Booking

structure Register (α : Type) where
  entries : List (Ident × α) := []
deriving DecidableEq

def Register.get? {α : Type} (r : Register α) (i : Ident) : Option α :=
  (r.entries.find? (fun e => e.1 == i)).map Prod.snd

/-- Replaces the first entry at the identifier, or removes it, or adds one at the end. -/
def Register.alterEntries {α : Type} (i : Ident) (f : Option α → Option α) :
    List (Ident × α) → List (Ident × α)
  | [] =>
    match f none with
    | none => []
    | some a => [(i, a)]
  | e :: es =>
    if e.1 = i then
      match f (some e.2) with
      | none => es.filter (fun d => d.1 ≠ i)
      | some a => (i, a) :: es
    else e :: Register.alterEntries i f es

/-- Changes the entry at the identifier: `none` stands for no entry. -/
def Register.alter {α : Type} (r : Register α) (i : Ident) (f : Option α → Option α) :
    Register α :=
  ⟨Register.alterEntries i f r.entries⟩

def Register.isEmpty {α : Type} (r : Register α) : Bool := r.entries.isEmpty

theorem Register.find?_filter_ne {α : Type} (i j : Ident) : ∀ (es : List (Ident × α)),
    (es.filter (fun d => d.1 ≠ i)).find? (fun e => e.1 == j) =
      if j = i then none else es.find? (fun e => e.1 == j)
  | [] => by simp
  | e :: es => by
    have ih := Register.find?_filter_ne i j es
    by_cases hi : e.1 = i <;> by_cases hj : e.1 = j <;> simp_all

theorem Register.get?_alterEntries {α : Type} (i j : Ident) (f : Option α → Option α) :
    ∀ (es : List (Ident × α)),
      (Register.mk (Register.alterEntries i f es)).get? j =
        if j = i then f ((Register.mk es).get? i) else (Register.mk es).get? j
  | [] => by
    unfold Register.alterEntries
    cases h : f none <;> by_cases hj : i = j <;> simp_all [Register.get?] <;> grind
  | e :: es => by
    have ih := Register.get?_alterEntries i j f es
    unfold Register.alterEntries
    by_cases hi : e.1 = i
    · rw [if_pos hi]
      cases h : f (some e.2) with
      | none =>
        simp only [Register.get?, Register.find?_filter_ne]
        by_cases hj : j = i <;> grind
      | some a => by_cases hj : j = i <;> simp_all [Register.get?] <;> grind
    · rw [if_neg hi]
      simp only [Register.get?, List.find?_cons] at ih ⊢
      by_cases hj : j = i <;> grind

/-- The entry at `i` changes by `f`, and every other entry stays. -/
theorem Register.get?_alter {α : Type} (r : Register α) (i j : Ident)
    (f : Option α → Option α) :
    (r.alter i f).get? j = if j = i then f (r.get? i) else r.get? j :=
  Register.get?_alterEntries i j f r.entries

@[simp] theorem Register.get?_empty {α : Type} (i : Ident) :
    ({} : Register α).get? i = none := rfl

end Booking
