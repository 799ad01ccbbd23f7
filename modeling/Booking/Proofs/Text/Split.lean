import Booking.Text.Basic
/-!
# What splitting gives

`Text.cut` finds the first separator, `Text.pieces` undoes putting pieces together with separators,
and `Text.words` reads off the words of a text however they are spaced.
-/
namespace Booking

/-! ## The first separator -/

theorem Text.cut_append {sep : Char} : ∀ {a : List Char} (b : List Char), sep ∉ a →
    Text.cut sep (a ++ sep :: b) = some (a, b)
  | [], b, _ => by simp [Text.cut]
  | c :: a, b, h => by
    rw [List.mem_cons, not_or] at h
    rw [List.cons_append, Text.cut, if_neg (Ne.symm h.1), Text.cut_append b h.2]
    rfl

theorem Text.notMem_of_cut {sep : Char} : ∀ {cs a b : List Char},
    Text.cut sep cs = some (a, b) → sep ∉ a
  | [], _, _, h => by cases h
  | c :: cs, a, b, h => by
    unfold Text.cut at h
    split at h
    · cases h
      exact List.not_mem_nil
    · rename_i hc
      obtain ⟨q, hq, he⟩ := Option.map_eq_some_iff.1 h
      cases he
      rw [List.mem_cons, not_or]
      exact ⟨Ne.symm hc, Text.notMem_of_cut hq⟩

theorem Text.cut_eq_some_iff {sep : Char} {cs a b : List Char} :
    Text.cut sep cs = some (a, b) ↔ sep ∉ a ∧ cs = a ++ sep :: b := by
  constructor
  · intro h
    exact ⟨Text.notMem_of_cut h, Text.eq_of_cut h⟩
  · rintro ⟨h, rfl⟩
    exact Text.cut_append b h

theorem Text.cut_eq_none_iff {sep : Char} {cs : List Char} :
    Text.cut sep cs = none ↔ sep ∉ cs := by
  constructor
  · intro h hmem
    obtain ⟨a, b, rfl, ha⟩ := List.eq_append_cons_of_mem hmem
    rw [Text.cut_append b ha] at h
    cases h
  · intro h
    cases hc : Text.cut sep cs with
    | none => rfl
    | some q =>
      rw [Text.eq_of_cut hc] at h
      simp at h

/-! ## Pieces -/

theorem Text.pieces_eq_splitOnP (isSep : Char → Bool) : ∀ (cs : List Char),
    Text.pieces isSep cs = cs.splitOnP isSep
  | [] => rfl
  | c :: cs => by
    rw [List.splitOnP_cons_eq_if_modifyHead, ← Text.pieces_eq_splitOnP isSep cs, Text.pieces]
    cases isSep c with
    | true => rfl
    | false =>
      cases h : Text.pieces isSep cs with
      | nil => exact absurd h (Text.pieces_ne_nil isSep cs)
      | cons p ps => rfl

theorem Text.eq_false_of_mem_pieces (isSep : Char → Bool) : ∀ (cs : List Char),
    ∀ p ∈ Text.pieces isSep cs, ∀ c ∈ p, isSep c = false
  | [], p, hp, c, hc => by
    rw [List.mem_singleton.1 hp] at hc
    cases hc
  | c₀ :: cs, p, hp, c, hc => by
    have ih := Text.eq_false_of_mem_pieces isSep cs
    unfold Text.pieces at hp
    split at hp
    · rcases List.mem_cons.1 hp with rfl | hp
      · cases hc
      · exact ih p hp c hc
    · rename_i hsep _
      rw [List.mem_singleton.1 hp] at hc
      rw [List.mem_singleton.1 hc]
      exact hsep
    · rename_i p₀ ps hsep heq
      rw [heq] at ih
      rcases List.mem_cons.1 hp with rfl | hp
      · rcases List.mem_cons.1 hc with rfl | hc
        · exact hsep
        · exact ih p₀ List.mem_cons_self c hc
      · exact ih p (List.mem_cons_of_mem _ hp) c hc

/-- **The pieces are the texts without separators that give the text when they are put together
with separators between them.** -/
theorem Text.pieces_eq_iff {sep : Char} {cs : List Char} {ps : List (List Char)} :
    Text.pieces (· == sep) cs = ps ↔
      ps ≠ [] ∧ (∀ p ∈ ps, sep ∉ p) ∧ [sep].intercalate ps = cs := by
  rw [Text.pieces_eq_splitOnP]
  constructor
  · rintro rfl
    refine ⟨List.splitOnP_ne_nil _ cs, fun p hp hmem => ?_, List.intercalate_splitOn sep⟩
    rw [← Text.pieces_eq_splitOnP] at hp
    simpa using Text.eq_false_of_mem_pieces _ cs p hp sep hmem
  · rintro ⟨hne, hps, rfl⟩
    exact List.splitOn_intercalate sep hps hne

/-! ## Words -/

/-- **The text consists of these words, spaced by blanks**: runs of blanks between the words and,
perhaps, at both ends. -/
inductive Text.Spaced : List Char → List (List Char) → Prop where
  | blanks {b : List Char} (hb : ∀ c ∈ b, Text.isBlank c = true) : Spaced b []
  | word {b w rest : List Char} {ws : List (List Char)} (hb : ∀ c ∈ b, Text.isBlank c = true)
      (hne : w ≠ []) (hw : ∀ c ∈ w, Text.isBlank c = false)
      (hrest : ∀ c ∈ rest.head?, Text.isBlank c = true) (h : Spaced rest ws) :
      Spaced (b ++ (w ++ rest)) (w :: ws)

theorem Text.words_cons_of_blank {c : Char} (hc : Text.isBlank c = true) (cs : List Char) :
    Text.words (c :: cs) = Text.words cs := by
  rw [Text.words, Text.pieces_eq_splitOnP, List.splitOnP_cons_eq_if_modifyHead, if_pos hc, Text.words,
    Text.pieces_eq_splitOnP]
  rfl

theorem Text.words_append_of_blanks : ∀ {b : List Char} (cs : List Char),
    (∀ c ∈ b, Text.isBlank c = true) → Text.words (b ++ cs) = Text.words cs
  | [], _, _ => rfl
  | c :: b, cs, h => by
    rw [List.cons_append, Text.words_cons_of_blank (h c List.mem_cons_self),
      Text.words_append_of_blanks cs (fun c hc => h c (List.mem_cons_of_mem _ hc))]

theorem Text.words_append_of_word {w : List Char} (hne : w ≠ [])
    (hw : ∀ c ∈ w, Text.isBlank c = false) :
    ∀ {rest : List Char}, (∀ c ∈ rest.head?, Text.isBlank c = true) →
      Text.words (w ++ rest) = w :: Text.words rest
  | [], _ => by
    rw [List.append_nil, Text.words, Text.pieces_eq_splitOnP,
      List.splitOnP_eq_singleton hw]
    simp [hne, Text.words, Text.pieces]
  | c :: rest, h => by
    have hc : Text.isBlank c = true := h c rfl
    rw [Text.words_cons_of_blank hc, Text.words, Text.pieces_eq_splitOnP,
      List.splitOnP_append_cons_of_forall_mem hw c hc, Text.words, Text.pieces_eq_splitOnP]
    simp [hne]

theorem Text.Spaced.words_eq {cs : List Char} {ws : List (List Char)} (h : Text.Spaced cs ws) :
    Text.words cs = ws := by
  induction h with
  | @blanks b hb =>
    have := Text.words_append_of_blanks [] hb
    rwa [List.append_nil] at this
  | word hb hne hw hrest _ ih =>
    rw [Text.words_append_of_blanks _ hb, Text.words_append_of_word hne hw hrest, ih]

theorem Text.Spaced.cons_blank {c : Char} (hc : Text.isBlank c = true) {cs : List Char}
    {ws : List (List Char)} (h : Text.Spaced cs ws) : Text.Spaced (c :: cs) ws := by
  cases h with
  | blanks hb => exact .blanks (List.forall_mem_cons.2 ⟨hc, hb⟩)
  | word hb hne hw hrest h =>
    rw [← List.cons_append]
    exact .word (List.forall_mem_cons.2 ⟨hc, hb⟩) hne hw hrest h

theorem Text.exists_spaced : ∀ (cs : List Char), ∃ ws, Text.Spaced cs ws
  | [] => ⟨[], .blanks (by simp)⟩
  | c :: cs => by
    obtain ⟨ws, h⟩ := Text.exists_spaced cs
    cases hc : Text.isBlank c with
    | true => exact ⟨ws, h.cons_blank hc⟩
    | false =>
      have hone : ∀ x ∈ [c], Text.isBlank x = false := fun x hx => by
        rw [List.mem_singleton.1 hx]
        exact hc
      by_cases hrest : ∀ x ∈ cs.head?, Text.isBlank x = true
      · exact ⟨[c] :: ws, .word (b := []) (w := [c]) (by simp) (by simp) hone hrest h⟩
      · cases h with
        | blanks hb => exact absurd (fun x hx => hb x (List.mem_of_mem_head? hx)) hrest
        | @word b w rest ws hb hne hw hr h =>
          -- no blank stands before the first word, so the character is put in front of it
          cases b with
          | nil =>
            have hw' : ∀ x ∈ c :: w, Text.isBlank x = false := List.forall_mem_cons.2 ⟨hc, hw⟩
            exact ⟨(c :: w) :: ws, .word (b := []) (by simp) (by simp) hw' hr h⟩
          | cons c' b =>
            refine absurd (fun x hx => ?_) hrest
            cases hx
            exact hb c' List.mem_cons_self

/-- **`Text.words` finds the words.** -/
theorem Text.words_eq_iff {cs : List Char} {ws : List (List Char)} :
    Text.words cs = ws ↔ Text.Spaced cs ws := by
  constructor
  · rintro rfl
    obtain ⟨ws, h⟩ := Text.exists_spaced cs
    rwa [h.words_eq]
  · exact Text.Spaced.words_eq

end Booking
