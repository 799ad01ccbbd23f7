import Booking.Proofs.Recurrence.Grammar
/-!
# Canonical texts

The canonical text of a pattern is one of the texts that the grammar has for it: every field is
written by its own text, commas join the texts of a list, and blanks set the five lists apart. So the
canonical text is read back as the pattern (`Pattern.parse_canonical`).
-/
namespace Booking

/-! ## Characters -/

theorem Text.mem_intercalate {sep c : Char} : ∀ {ps : List (List Char)},
    c ∈ [sep].intercalate ps → c = sep ∨ ∃ p ∈ ps, c ∈ p
  | [], h => by simp at h
  | [p], h => .inr ⟨p, List.mem_singleton_self p, by simpa using h⟩
  | p :: q :: ps, h => by
    rw [List.intercalate_cons_cons, List.append_assoc, List.mem_append] at h
    rcases h with h | h
    · exact .inr ⟨p, List.mem_cons_self, h⟩
    · rcases List.mem_cons.1 h with rfl | h
      · exact .inl rfl
      · refine (Text.mem_intercalate h).imp_right (fun ⟨r, hr, hc⟩ => ?_)
        exact ⟨r, List.mem_cons_of_mem p hr, hc⟩

theorem Text.Spaced.intercalate : ∀ {ws : List (List Char)},
    (∀ w ∈ ws, w ≠ [] ∧ ∀ c ∈ w, Text.isBlank c = false) → Text.Spaced ([' '].intercalate ws) ws
  | [], _ => .blanks (by simp)
  | [w], h => by
    have hw := h w List.mem_cons_self
    have hspaced : Text.Spaced ([] ++ (w ++ [])) [w] :=
      .word (by simp) hw.1 hw.2 (by simp) (.blanks (by simp))
    simpa using hspaced
  | w :: w' :: ws, h => by
    have hw := h w List.mem_cons_self
    have hrest : Text.Spaced ([' '].intercalate (w' :: ws)) (w' :: ws) :=
      Text.Spaced.intercalate (fun v hv => h v (List.mem_cons_of_mem w hv))
    have hblank : Text.isBlank ' ' = true := by decide
    rw [List.intercalate_cons_cons, List.append_assoc]
    exact .word (b := []) (by simp) hw.1 hw.2 (by simpa using hblank) (hrest.cons_blank hblank)

/-! ## Fields -/

/-- The step of a field is below the bound. -/
def Field.StepsBelow (bound : Nat) : Field → Prop
  | .any => True
  | .range _ _ step => step < bound

theorem Dimension.lt_numberBound_of_admits {d : Dimension} {n : Nat} (h : d.admits n = true) :
    n < Field.numberBound := by
  have hle : n ≤ d.greatest := by
    simp only [Dimension.admits, Bool.and_eq_true, decide_eq_true_eq] at h
    exact h.2
  refine Nat.lt_of_le_of_lt hle ?_
  cases d <;> decide

theorem Field.isNumeral_toDigits {n : Nat} (h : n < Field.numberBound) :
    Field.IsNumeral (Nat.toDigits 10 n) n :=
  Field.number?_eq_some_iff.1 (Text.numeralBelow?_toDigits h)

theorem Field.Written.stepsBelow {d : Dimension} {token : List Char} {f : Field}
    (h : Field.Written d token f) : f.StepsBelow Field.numberBound := by
  have hone : 1 < Field.numberBound := by decide
  cases h with
  | any => trivial
  | starStep hs | bareStep hs => exact hs.2.2.2
  | single | ends => exact hone
  | endsStep _ _ hs =>
    show (if _ then 1 else _) < Field.numberBound
    split
    · exact hone
    · exact hs.2.2.2

/-- **A proper field is written by its own text**: a single value has step 1, so nothing is lost when
the text leaves the step out. -/
theorem Field.written_text {d : Dimension} : ∀ {f : Field}, f.IsProper d →
    f.StepsBelow Field.numberBound → Field.Written d f.text f
  | .any, _, _ => .any
  | .range first last step, ⟨hfirst, hlast, hstep, hone⟩, hbound => by
    have hx : Field.IsNumeral (Nat.toDigits 10 first) first :=
      Field.isNumeral_toDigits (Dimension.lt_numberBound_of_admits hfirst)
    have hy : Field.IsNumeral (Nat.toDigits 10 last) last :=
      Field.isNumeral_toDigits (Dimension.lt_numberBound_of_admits hlast)
    by_cases hsingle : first = last
    · obtain rfl := hone hsingle
      subst hsingle
      simp only [Field.text, if_true]
      exact .single hx hfirst
    · by_cases hs : step = 1
      · subst hs
        simp only [Field.text, hsingle, if_false, if_true]
        exact .ends hx hy hfirst hlast
      · have hwritten := Field.Written.endsStep hx hy (Field.isNumeral_toDigits hbound) hfirst hlast
          hstep
        rw [if_neg hsingle] at hwritten
        simp only [Field.text, hsingle, hs, if_false, List.append_assoc, List.cons_append]
        exact hwritten

theorem Field.Written.ne_nil {d : Dimension} {token : List Char} {f : Field}
    (h : Field.Written d token f) : token ≠ [] := by
  cases h with
  | any | starStep | bareStep => exact List.cons_ne_nil _ _
  | single hs => exact hs.1
  | ends | endsStep => exact List.append_ne_nil_of_right_ne_nil _ (List.cons_ne_nil _ _)

theorem Field.IsNumeral.isBlank_eq_false {cs : List Char} {n : Nat} (h : Field.IsNumeral cs n) :
    ∀ c ∈ cs, Text.isBlank c = false :=
  fun c hc => Text.isBlank_of_isDigit (h.2.1 c hc)

theorem Field.Written.isBlank_eq_false {d : Dimension} {token : List Char} {f : Field}
    (h : Field.Written d token f) : ∀ c ∈ token, Text.isBlank c = false := by
  have hstar : Text.isBlank '*' = false := by decide
  have hslash : Text.isBlank '/' = false := by decide
  have hdash : Text.isBlank '-' = false := by decide
  cases h with
  | any => simpa using hstar
  | starStep hs =>
    exact List.forall_mem_cons.2 ⟨hstar, List.forall_mem_cons.2 ⟨hslash, hs.isBlank_eq_false⟩⟩
  | bareStep hs => exact List.forall_mem_cons.2 ⟨hslash, hs.isBlank_eq_false⟩
  | single hs => exact hs.isBlank_eq_false
  | ends hx hy =>
    rw [List.forall_mem_append, List.forall_mem_cons]
    exact ⟨hx.isBlank_eq_false, hdash, hy.isBlank_eq_false⟩
  | endsStep hx hy hs =>
    rw [List.forall_mem_append, List.forall_mem_cons, List.forall_mem_append, List.forall_mem_cons]
    exact ⟨hx.isBlank_eq_false, hdash, hy.isBlank_eq_false, hslash, hs.isBlank_eq_false⟩

/-! ## Lists -/

theorem Field.listWritten_listText {d : Dimension} {fs : List Field} (hne : fs ≠ [])
    (h : ∀ f ∈ fs, Field.Written d f.text f) : Field.ListWritten d (Field.listText fs) fs := by
  refine ⟨fs.map Field.text, by simpa using hne, rfl, ?_⟩
  rwa [List.forall₂_map_left_iff, List.forall₂_same]

theorem Field.ListWritten.written_text {d : Dimension} {cs : List Char} {fs : List Field}
    (h : Field.ListWritten d cs fs) : ∀ f ∈ fs, Field.Written d f.text f := by
  obtain ⟨tokens, -, -, h⟩ := h
  intro f hf
  obtain ⟨token, -, hw⟩ := exists_mem_of_forall₂ h.flip f hf
  exact Field.written_text hw.isProper hw.stepsBelow

theorem Field.ListWritten.listText {d : Dimension} {cs : List Char} {fs : List Field}
    (h : Field.ListWritten d cs fs) : Field.ListWritten d (Field.listText fs) fs :=
  Field.listWritten_listText h.isProper.1 h.written_text

theorem Field.ListWritten.ne_nil {d : Dimension} {cs : List Char} {fs : List Field}
    (h : Field.ListWritten d cs fs) : cs ≠ [] := by
  obtain ⟨tokens, hne, rfl, h⟩ := h
  cases h with
  | nil => exact absurd rfl hne
  | @cons token f tokens fs hw htokens =>
    cases tokens with
    | nil => simpa using hw.ne_nil
    | cons => simp [hw.ne_nil]

theorem Field.ListWritten.isBlank_eq_false {d : Dimension} {cs : List Char} {fs : List Field}
    (h : Field.ListWritten d cs fs) : ∀ c ∈ cs, Text.isBlank c = false := by
  obtain ⟨tokens, -, rfl, h⟩ := h
  intro c hc
  rcases Text.mem_intercalate hc with rfl | ⟨token, htoken, hc⟩
  · decide
  · obtain ⟨f, -, hw⟩ := exists_mem_of_forall₂ h token htoken
    exact hw.isBlank_eq_false c hc

/-! ## Patterns -/

theorem Pattern.Written.listWritten {cs : List Char} {p : Pattern} (h : Pattern.Written cs p)
    (d : Dimension) : Field.ListWritten d (Field.listText (p.fields d)) (p.fields d) := by
  obtain ⟨ws, -, h⟩ := h
  obtain ⟨w, -, hw⟩ := exists_mem_of_forall₂ h d d.mem_all
  exact hw.listText

theorem Pattern.Written.spaced_text {cs : List Char} {p : Pattern} (h : Pattern.Written cs p) :
    Text.Spaced p.text (Dimension.all.map (fun d => Field.listText (p.fields d))) := by
  refine Text.Spaced.intercalate (fun w hw => ?_)
  obtain ⟨d, -, rfl⟩ := List.mem_map.1 hw
  exact ⟨(h.listWritten d).ne_nil, (h.listWritten d).isBlank_eq_false⟩

/-- **Where a pattern is written at all, it is written by its canonical text.** -/
theorem Pattern.Written.text {cs : List Char} {p : Pattern} (h : Pattern.Written cs p) :
    Pattern.Written p.text p := by
  refine ⟨_, h.spaced_text, ?_⟩
  rw [List.forall₂_map_right_iff, List.forall₂_same]
  exact fun d _ => h.listWritten d

/-- Some text stands for the pattern. -/
def Pattern.IsParsed (p : Pattern) : Prop := ∃ s, Pattern.parse s = .ok p

/-- A pattern that comes from a text comes from its canonical text. -/
theorem Pattern.IsParsed.parse_eq_ok {p : Pattern} (h : p.IsParsed) :
    Pattern.parse p.canonical = .ok p := by
  obtain ⟨s, hs⟩ := h
  rw [Pattern.parse_eq_ok_iff_written, Pattern.canonical, String.toList_ofList]
  exact (Pattern.parse_eq_ok_iff_written.1 hs).text

/-- **The canonical text tells the patterns apart that come from texts.** -/
theorem Pattern.IsParsed.canonical_inj {p q : Pattern} (hp : p.IsParsed) (hq : q.IsParsed) :
    p.canonical = q.canonical ↔ p = q := by
  constructor
  · intro h
    have hread : Pattern.parse p.canonical = .ok q := by
      rw [h]
      exact hq.parse_eq_ok
    rw [hp.parse_eq_ok] at hread
    exact Except.ok.inj hread
  · rintro rfl
    rfl

/-- **The canonical text of an accepted pattern is read back as the pattern**, and is its own
canonical text. Its words are the texts of the five lists, without a blank in any of them, and each
is read back as its list. -/
theorem Pattern.parse_canonical {s : String} {p : Pattern} (h : Pattern.parse s = .ok p) :
    (∃ q, Pattern.parse p.canonical = .ok q ∧ q = p ∧ q.canonical = p.canonical) ∧
    Text.words p.canonical.toList = Dimension.all.map (fun d => Field.listText (p.fields d)) ∧
    ∀ d, (∀ c ∈ Field.listText (p.fields d), Text.isBlank c = false) ∧
      Field.parseList d (Field.listText (p.fields d)) = .ok (p.fields d) := by
  have hwritten := Pattern.parse_eq_ok_iff_written.1 h
  have htext : p.canonical.toList = p.text := String.toList_ofList
  refine ⟨⟨p, ?_, rfl, rfl⟩, ?_, fun d => ⟨?_, ?_⟩⟩
  · rw [Pattern.parse_eq_ok_iff_written, htext]
    exact hwritten.text
  · rw [htext]
    exact hwritten.spaced_text.words_eq
  · exact (hwritten.listWritten d).isBlank_eq_false
  · exact Field.parseList_eq_ok_iff.2 (hwritten.listWritten d)

theorem Pattern.parse_canonical_allForms :
    ∃ p, Pattern.parse " */15,05  /2 *\t01-012/3 2-2/6,6-1" = .ok p ∧
      p.canonical = "0-59/15,5 0-23/2 * 1-12/3 2,6-1" ∧
      Pattern.parse "0-59/15,5 0-23/2 * 1-12/3 2,6-1" = .ok p := by
  refine ⟨⟨[.range 0 59 15, .range 5 5 1], [.range 0 23 2], [.any], [.range 1 12 3],
    [.range 2 2 1, .range 6 1 1]⟩, by rfl, by decide, ?_⟩
  obtain ⟨q, hq, rfl, -⟩ :=
    (Pattern.parse_canonical (s := " */15,05  /2 *\t01-012/3 2-2/6,6-1") (by rfl)).1
  exact hq

end Booking
