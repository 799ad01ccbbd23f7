import Booking.Proofs.Recurrence.Canonical
import Booking.Proofs.Text.Size
/-!
# The length of canonical texts

The canonical text leaves out zeros and blanks that say nothing, but it writes out the bounds of a
dimension for which `/S` and `*/S` are short. So it is no longer than the text that the pattern was read
from, but for four more characters at each slash (`Pattern.Written.length_text_le`).
-/
namespace Booking

/-- The length of a text, with room for the bounds of a dimension at every slash. -/
def Text.room (cs : List Char) : Nat := cs.length + 4 * cs.count '/'

@[simp] theorem Text.room_append (cs ds : List Char) :
    Text.room (cs ++ ds) = Text.room cs + Text.room ds := by
  simp only [Text.room, List.length_append, List.count_append]
  omega

theorem Text.length_le_room (cs : List Char) : cs.length ≤ Text.room cs := Nat.le_add_right _ _

theorem Text.room_cons_slash (cs : List Char) : Text.room ('/' :: cs) = Text.room cs + 5 := by
  simp only [Text.room, List.length_cons, List.count_cons_self]
  omega

theorem Text.room_cons {c : Char} (h : c ≠ '/') (cs : List Char) :
    Text.room (c :: cs) = Text.room cs + 1 := by
  simp only [Text.room, List.length_cons, List.count_cons_of_ne h]
  omega

/-! ## Texts with separators -/

/-- Texts that have room in others have it where both are put together alike. -/
theorem Text.length_intercalate_le (sep : Char) : ∀ {as bs : List (List Char)},
    List.Forall₂ (fun a b => a.length ≤ Text.room b) as bs →
      ([sep].intercalate as).length ≤ Text.room ([sep].intercalate bs)
  | [], [], .nil => by simp
  | [a], [b], .cons h .nil => by simpa using h
  | a :: a' :: as, b :: b' :: bs, .cons h hs => by
    have hrest := Text.length_intercalate_le sep hs
    have hsep : 1 ≤ Text.room [sep] := Text.length_le_room [sep]
    rw [List.intercalate_cons_cons, List.intercalate_cons_cons, List.length_append,
      List.length_append, List.length_singleton, Text.room_append, Text.room_append]
    omega

/-- **Words take no more room with single blanks between them.** There is even room for one more
character if blanks come first. -/
theorem Text.Spaced.room_intercalate_le {cs : List Char} {ws : List (List Char)}
    (h : Text.Spaced cs ws) (hne : ws ≠ []) :
    Text.room ([' '].intercalate ws) ≤ Text.room cs ∧
      ((∀ c ∈ cs.head?, Text.isBlank c = true) →
        Text.room ([' '].intercalate ws) + 1 ≤ Text.room cs) := by
  induction h with
  | blanks => exact absurd rfl hne
  | @word b w rest ws hb hw hwords hrest h ih =>
    -- a blank stands in front, unless the text begins with the word
    have hblank : (∀ c ∈ (b ++ (w ++ rest)).head?, Text.isBlank c = true) → 1 ≤ Text.room b := by
      intro hhead
      cases b with
      | cons c b => exact Nat.le_trans (by simp) (Text.length_le_room (c :: b))
      | nil =>
        obtain ⟨c, w', rfl⟩ := List.exists_cons_of_ne_nil hw
        have hc := hhead c rfl
        rw [hwords c List.mem_cons_self] at hc
        cases hc
    have hroom : Text.room ([' '].intercalate (w :: ws)) ≤ Text.room w + Text.room rest := by
      cases ws with
      | nil => simp
      | cons w' ws =>
        obtain ⟨-, hlater⟩ := ih (List.cons_ne_nil w' ws)
        have hone : Text.room [' '] = 1 := by decide
        rw [List.intercalate_cons_cons, Text.room_append, Text.room_append, hone, Nat.add_assoc,
          Nat.add_comm 1]
        exact Nat.add_le_add_left (hlater hrest) _
    rw [Text.room_append, Text.room_append]
    refine ⟨by omega, fun hhead => ?_⟩
    have := hblank hhead
    omega

/-! ## Fields and patterns -/

theorem Field.IsNumeral.length_toDigits_le {cs : List Char} {n : Nat} (h : Field.IsNumeral cs n) :
    (Nat.toDigits 10 n).length ≤ Text.room cs := by
  obtain ⟨hne, hdigit, rfl, -⟩ := h
  exact Nat.le_trans (Text.length_toDigits_le hne hdigit) (Text.length_le_room cs)

/-- The three forms of the text of a range. -/
theorem Field.text_range_cases (a b step : Nat) :
    (a = b ∧ Field.text (.range a b step) = Nat.toDigits 10 a) ∨
    (step = 1 ∧ Field.text (.range a b step) = Nat.toDigits 10 a ++ '-' :: Nat.toDigits 10 b) ∨
    Field.text (.range a b step) =
      Nat.toDigits 10 a ++ '-' :: (Nat.toDigits 10 b ++ '/' :: Nat.toDigits 10 step) := by
  rw [Field.text]
  by_cases hab : a = b
  · rw [if_pos hab]
    exact .inl ⟨hab, rfl⟩
  · rw [if_neg hab]
    by_cases hstep : step = 1
    · exact .inr (.inl ⟨hstep, if_pos hstep⟩)
    · refine .inr (.inr ((if_neg hstep).trans ?_))
      rw [List.append_assoc, List.cons_append]

/-- The text of a range is no longer than its two ends with a step behind them. -/
theorem Field.length_text_range_le (a b step : Nat) :
    (Field.text (.range a b step)).length ≤
      (Nat.toDigits 10 a).length + (Nat.toDigits 10 b).length +
        (Nat.toDigits 10 step).length + 2 := by
  rcases Field.text_range_cases a b step with ⟨-, h⟩ | ⟨-, h⟩ | h
  · rw [h]
    omega
  · rw [h, List.length_append, List.length_cons]
    omega
  · rw [h, List.length_append, List.length_cons, List.length_append, List.length_cons]
    omega

/-- Both bounds of a dimension have three digits at most. -/
theorem Dimension.length_bounds_le (d : Dimension) :
    (Nat.toDigits 10 d.least).length + (Nat.toDigits 10 d.greatest).length ≤ 3 := by
  cases d <;> decide

theorem Field.Written.length_text_le {d : Dimension} {token : List Char} {f : Field}
    (h : Field.Written d token f) : f.text.length ≤ Text.room token := by
  cases h with
  | any => decide
  | @starStep s step hs =>
    have htext := Field.length_text_range_le d.least d.greatest step
    have hbounds := d.length_bounds_le
    have hstep := hs.length_toDigits_le
    rw [Text.room_cons (by decide), Text.room_cons_slash]
    omega
  | @bareStep s step hs =>
    have htext := Field.length_text_range_le d.least d.greatest step
    have hbounds := d.length_bounds_le
    have hstep := hs.length_toDigits_le
    rw [Text.room_cons_slash]
    omega
  | single hs =>
    rw [Field.text, if_pos rfl]
    exact hs.length_toDigits_le
  | @ends x y a b hx hy =>
    have hfirst := hx.length_toDigits_le
    have hlast := hy.length_toDigits_le
    rw [Text.room_append, Text.room_cons (by decide)]
    by_cases hab : a = b
    · rw [Field.text, if_pos hab]
      omega
    · rw [Field.text, if_neg hab, if_pos rfl, List.length_append, List.length_cons]
      omega
  | @endsStep x y s a b step hx hy hs =>
    have hfirst := hx.length_toDigits_le
    have hlast := hy.length_toDigits_le
    have hstep := hs.length_toDigits_le
    rw [Text.room_append, Text.room_cons (by decide), Text.room_append, Text.room_cons_slash]
    by_cases hab : a = b
    · rw [Field.text, if_pos hab]
      omega
    · have htext := Field.length_text_range_le a b step
      rw [if_neg hab]
      omega

theorem Field.ListWritten.length_listText_le {d : Dimension} {cs : List Char} {fs : List Field}
    (h : Field.ListWritten d cs fs) : (Field.listText fs).length ≤ Text.room cs := by
  obtain ⟨tokens, -, rfl, h⟩ := h
  refine Text.length_intercalate_le _ ?_
  rw [List.forall₂_map_left_iff]
  exact h.flip.imp (fun _ _ hw => hw.length_text_le)

/-- **The canonical text is longer than the text that was read by four characters for each slash, at
most.** -/
theorem Pattern.Written.length_text_le {cs : List Char} {p : Pattern} (h : Pattern.Written cs p) :
    p.text.length ≤ Text.room cs := by
  obtain ⟨ws, hspaced, h⟩ := h
  have hne : ws ≠ [] := by
    rintro rfl
    cases h
  refine Nat.le_trans (Text.length_intercalate_le _ ?_) (hspaced.room_intercalate_le hne).1
  rw [List.forall₂_map_left_iff]
  exact h.imp (fun _ _ hw => hw.length_listText_le)

/-! ## Bytes -/

/-- All characters of a canonical text are ASCII. -/
theorem Field.utf8Size_of_mem_text : ∀ (f : Field), ∀ c ∈ f.text, c.utf8Size = 1
  | .any, c, hc => by
    rw [List.mem_singleton.1 hc]
    decide
  | .range first last step, c, hc => by
    have hdigits : ∀ n, c ∈ Nat.toDigits 10 n → c.utf8Size = 1 := fun n hmem =>
      Text.utf8Size_of_isDigit (Nat.isDigit_of_mem_toDigits (by decide) (by decide) hmem)
    have hdash : c = '-' → c.utf8Size = 1 := by
      rintro rfl
      decide
    have hslash : c = '/' → c.utf8Size = 1 := by
      rintro rfl
      decide
    rcases Field.text_range_cases first last step with ⟨-, h⟩ | ⟨-, h⟩ | h
    · rw [h] at hc
      exact hdigits first hc
    · rw [h, List.mem_append, List.mem_cons] at hc
      rcases hc with hc | hc | hc
      · exact hdigits first hc
      · exact hdash hc
      · exact hdigits last hc
    · rw [h, List.mem_append, List.mem_cons, List.mem_append, List.mem_cons] at hc
      rcases hc with hc | hc | hc | hc | hc
      · exact hdigits first hc
      · exact hdash hc
      · exact hdigits last hc
      · exact hslash hc
      · exact hdigits step hc

theorem Pattern.utf8ByteSize_canonical (p : Pattern) : p.canonical.utf8ByteSize = p.text.length := by
  refine Text.utf8ByteSize_of_narrow fun c hc => ?_
  rcases Text.mem_intercalate hc with rfl | ⟨list, hlist, hc⟩
  · decide
  obtain ⟨d, -, rfl⟩ := List.mem_map.1 hlist
  rcases Text.mem_intercalate hc with rfl | ⟨text, htext, hc⟩
  · decide
  obtain ⟨f, -, rfl⟩ := List.mem_map.1 htext
  exact f.utf8Size_of_mem_text c hc

/-- **The bytes of a canonical text**: those of the text that was read, and four for each of its slashes,
at most. -/
theorem Pattern.utf8ByteSize_canonical_le {s : String} {p : Pattern} (h : Pattern.parse s = .ok p) :
    p.canonical.utf8ByteSize ≤ s.utf8ByteSize + 4 * s.toList.count '/' := by
  have hlength := (Pattern.parse_eq_ok_iff_written.1 h).length_text_le
  have hbytes := Text.length_le_utf8ByteSize s
  rw [Pattern.utf8ByteSize_canonical]
  unfold Text.room at hlength
  omega

end Booking
