import Mathlib.Data.List.Forall2
/-!
# Going through lists

What it means that a computation that may fail succeeds on a whole list, at which element it fails
first, and how a list is picked out by its positions.
-/
namespace Booking

/-! ## Computations that may fail -/

theorem bind_eq_ok_iff {ε α β : Type} {x : Except ε α} {f : α → Except ε β} {b : β} :
    x >>= f = .ok b ↔ ∃ a, x = .ok a ∧ f a = .ok b := by
  cases x with
  | error e => simp [bind, Except.bind]
  | ok a => simp [bind, Except.bind]

theorem exists_mem_of_forall₂ {α β : Type} {R : α → β → Prop} {as : List α} {bs : List β}
    (h : List.Forall₂ R as bs) : ∀ a ∈ as, ∃ b ∈ bs, R a b := by
  induction h with
  | nil => simp
  | cons hab _ ih =>
    refine List.forall_mem_cons.2 ⟨⟨_, List.mem_cons_self, hab⟩, fun a ha => ?_⟩
    obtain ⟨b, hb, h⟩ := ih a ha
    exact ⟨b, List.mem_cons_of_mem _ hb, h⟩

theorem mapM_eq_ok_iff {ε α β : Type} {f : α → Except ε β} : ∀ {as : List α} {bs : List β},
    as.mapM f = .ok bs ↔ List.Forall₂ (fun a b => f a = .ok b) as bs
  | [], bs => by
    rw [List.mapM_nil, List.forall₂_nil_left_iff]
    constructor
    · intro h
      cases h
      rfl
    · rintro rfl
      rfl
  | a :: as, bs => by
    rw [List.mapM_cons, bind_eq_ok_iff, List.forall₂_cons_left_iff]
    constructor
    · rintro ⟨b, hb, h⟩
      obtain ⟨bs', hbs, he⟩ := bind_eq_ok_iff.1 h
      cases he
      exact ⟨b, bs', hb, mapM_eq_ok_iff.1 hbs, rfl⟩
    · rintro ⟨b, bs', hb, hbs, rfl⟩
      exact ⟨b, hb, bind_eq_ok_iff.2 ⟨bs', mapM_eq_ok_iff.2 hbs, rfl⟩⟩

theorem forM_eq_ok_iff {ε α : Type} {f : α → Except ε Unit} : ∀ {as : List α},
    as.forM f = .ok () ↔ ∀ a ∈ as, f a = .ok ()
  | [] => by simp [List.forM, pure, Except.pure]
  | a :: as => by
    rw [List.forall_mem_cons, ← forM_eq_ok_iff, List.forM, bind_eq_ok_iff]
    constructor
    · rintro ⟨⟨⟩, ha, has⟩
      exact ⟨ha, has⟩
    · rintro ⟨ha, has⟩
      exact ⟨(), ha, has⟩

/-! ## The first failure -/

theorem bind_eq_error_iff {ε α β : Type} {x : Except ε α} {f : α → Except ε β} {e : ε} :
    x >>= f = .error e ↔ x = .error e ∨ ∃ a, x = .ok a ∧ f a = .error e := by
  cases x with
  | error e => simp [bind, Except.bind]
  | ok a => simp [bind, Except.bind]

/-- **The first element that fails with an error of this kind fails with `e`.** -/
def FailsFirst {ε α β : Type} (f : α → Except ε β) (kind : ε → Prop) (as : List α) (e : ε) : Prop :=
  ∃ pre a post, as = pre ++ a :: post ∧ (∀ b ∈ pre, ∀ e', f b = .error e' → ¬ kind e') ∧
    f a = .error e ∧ kind e

section

variable {ε α β γ : Type} {f : α → Except ε β} {g : α → Except ε γ} {kind : ε → Prop} {e : ε}

theorem not_failsFirst_nil : ¬ FailsFirst f kind [] e := by
  rintro ⟨pre, a, post, h, -⟩
  cases pre <;> cases h

theorem failsFirst_cons_iff {a : α} {as : List α} :
    FailsFirst f kind (a :: as) e ↔
      (f a = .error e ∧ kind e) ∨
        ((∀ e', f a = .error e' → ¬ kind e') ∧ FailsFirst f kind as e) := by
  constructor
  · rintro ⟨pre, b, post, h, hpre, hb⟩
    cases pre with
    | nil =>
      cases h
      exact .inl hb
    | cons c pre =>
      cases h
      rw [List.forall_mem_cons] at hpre
      exact .inr ⟨hpre.1, pre, b, post, rfl, hpre.2, hb⟩
  · rintro (ha | ⟨ha, pre, b, post, rfl, hpre, hb⟩)
    · exact ⟨[], a, as, rfl, by simp, ha⟩
    · exact ⟨a :: pre, b, post, rfl, List.forall_mem_cons.2 ⟨ha, hpre⟩, hb⟩

theorem FailsFirst.exists_mem {as : List α} (h : FailsFirst f kind as e) :
    ∃ a ∈ as, f a = .error e ∧ kind e := by
  obtain ⟨pre, a, post, rfl, -, ha⟩ := h
  exact ⟨a, by simp, ha⟩

theorem exists_failsFirst_iff {as : List α} :
    (∃ e, FailsFirst f kind as e) ↔ ∃ a ∈ as, ∃ e, f a = .error e ∧ kind e := by
  constructor
  · rintro ⟨e, h⟩
    obtain ⟨a, ha, he⟩ := h.exists_mem
    exact ⟨a, ha, e, he⟩
  · rintro ⟨a, ha, he⟩
    induction as with
    | nil => cases ha
    | cons b as ih =>
      by_cases hb : ∃ e, f b = .error e ∧ kind e
      · obtain ⟨e, hb⟩ := hb
        exact ⟨e, failsFirst_cons_iff.2 (.inl hb)⟩
      · have hnone : ∀ e, f b = .error e → ¬ kind e := fun e h hkind => hb ⟨e, h, hkind⟩
        rcases List.mem_cons.1 ha with rfl | ha
        · exact absurd he hb
        · obtain ⟨e, h⟩ := ih ha
          exact ⟨e, failsFirst_cons_iff.2 (.inr ⟨hnone, h⟩)⟩

/-- Only the errors of the kind count. -/
theorem failsFirst_congr {as : List α}
    (h : ∀ a ∈ as, ∀ e, f a = .error e ∧ kind e ↔ g a = .error e ∧ kind e) :
    FailsFirst f kind as e ↔ FailsFirst g kind as e := by
  induction as with
  | nil => exact iff_of_false not_failsFirst_nil not_failsFirst_nil
  | cons a as ih =>
    rw [List.forall_mem_cons] at h
    have hnone : (∀ e', f a = .error e' → ¬ kind e') ↔ ∀ e', g a = .error e' → ¬ kind e' :=
      forall_congr' (fun e' => by rw [← not_and, ← not_and, h.1 e'])
    rw [failsFirst_cons_iff, failsFirst_cons_iff, h.1 e, hnone, ih h.2]

/-- A computation whose errors are all of the kind, and then one that fails with `e` or not whatever
the first one gives. -/
theorem bind_fails_iff {x : Except ε α} {y : α → Except ε β} {p : Prop}
    (hkind : ∀ e', x = .error e' → kind e') (hy : ∀ a, y a = .error e ↔ p) :
    x >>= y = .error e ↔
      (x = .error e ∧ kind e) ∨ ((∀ e', x = .error e' → ¬ kind e') ∧ p) := by
  rw [bind_eq_error_iff]
  cases x with
  | error e' =>
    have he' : kind e' := hkind e' rfl
    constructor
    · rintro (h | ⟨a, h, -⟩)
      · cases h
        exact .inl ⟨rfl, he'⟩
      · cases h
    · rintro (h | ⟨h, -⟩)
      · exact .inl h.1
      · exact absurd he' (h e' rfl)
  | ok a => simp [hy]

/-- **A list of computations whose errors are all of the kind fails as the first that does.** -/
theorem mapM_eq_error_iff (kind : ε → Prop) : ∀ {as : List α},
    (∀ a ∈ as, ∀ e, f a = .error e → kind e) → (as.mapM f = .error e ↔ FailsFirst f kind as e)
  | [], _ => iff_of_false (by simp [pure, Except.pure]) not_failsFirst_nil
  | a :: as, hkind => by
    rw [List.forall_mem_cons] at hkind
    rw [List.mapM_cons, failsFirst_cons_iff, ← mapM_eq_error_iff kind hkind.2]
    refine bind_fails_iff hkind.1 (fun b => ?_)
    simp [bind_eq_error_iff, pure, Except.pure]

theorem forM_eq_error_iff {f : α → Except ε Unit} (kind : ε → Prop) : ∀ {as : List α},
    (∀ a ∈ as, ∀ e, f a = .error e → kind e) → (as.forM f = .error e ↔ FailsFirst f kind as e)
  | [], _ => iff_of_false (by simp [List.forM, pure, Except.pure]) not_failsFirst_nil
  | a :: as, hkind => by
    rw [List.forall_mem_cons] at hkind
    rw [List.forM, failsFirst_cons_iff, ← forM_eq_error_iff kind hkind.2]
    exact bind_fails_iff hkind.1 (fun _ => Iff.rfl)

end

/-! ## Positions -/

theorem map_eq_map_some_filterMap {α β : Type} (f : α → Option β) : ∀ (l : List α),
    (∀ a ∈ l, (f a).isSome) → l.map f = (l.filterMap f).map some
  | [], _ => rfl
  | a :: l, h => by
    obtain ⟨b, hb⟩ := Option.isSome_iff_exists.1 (h a List.mem_cons_self)
    rw [List.map_cons, List.filterMap_cons_some hb, List.map_cons, hb,
      map_eq_map_some_filterMap f l (fun a ha => h a (List.mem_cons_of_mem _ ha))]

theorem filterMap_getElem?_range {α : Type} (l : List α) :
    (List.range l.length).filterMap (fun j => l[j]?) = l := by
  have hsome : (List.range l.length).map (fun j => l[j]?) = l.map some := by
    refine List.ext_getElem (by simp) (fun j hj _ => ?_)
    simp
  rw [map_eq_map_some_filterMap _ _ (fun j hj => by simpa using hj)] at hsome
  exact (List.map_inj_right (fun _ _ => Option.some.inj)).1 hsome

end Booking
