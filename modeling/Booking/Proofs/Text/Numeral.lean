import Booking.Text.Basic
/-!
# Numerals and the blanks around them

A numeral is read as the value of its digits (`Text.numeral?_eq_some_iff`). Digits are no blanks, so what is
left when blanks are trimmed is a numeral if the text has nothing but blanks around one
(`Text.trim_eq_iff`).
-/
namespace Booking

/-! ## Numerals -/

section

variable {cs : List Char} {n : Nat}

theorem Text.numeral?_eq_some_iff :
    Text.numeral? cs = some n ↔
      cs ≠ [] ∧ (∀ c ∈ cs, c.isDigit = true) ∧ Nat.ofDigitChars 10 cs 0 = n := by
  simp [Text.numeral?, Option.ite_none_left_eq_some, and_assoc]

theorem Text.numeralBelow?_eq_some_iff {bound : Nat} :
    Text.numeralBelow? bound cs = some n ↔ Text.numeral? cs = some n ∧ n < bound := by
  rw [Text.numeralBelow?, Option.bind_eq_some_iff]
  constructor
  · rintro ⟨m, hm, hn⟩
    obtain ⟨hlt, he⟩ := Option.ite_none_right_eq_some.1 hn
    cases he
    exact ⟨hm, hlt⟩
  · rintro ⟨hm, hlt⟩
    exact ⟨n, hm, if_pos hlt⟩

end

theorem Text.isBlank_of_isDigit {c : Char} (h : c.isDigit = true) : Text.isBlank c = false := by
  simp only [Char.isDigit, Bool.and_eq_true, decide_eq_true_eq, UInt32.le_iff_toNat_le] at h
  have hle : 48 ≤ c.toNat ∧ c.toNat ≤ 57 := h
  simp only [Text.isBlank, Bool.or_eq_false_iff, Bool.and_eq_false_iff, decide_eq_false_iff_not,
    beq_eq_false_iff_ne]
  omega

/-! ## Trimming -/

section

variable {c : Char} {cs w before : List Char}

theorem Text.trimLeft_cons (h : Text.isBlank c = false) : Text.trimLeft (c :: cs) = c :: cs :=
  List.dropWhile_cons_of_neg (by rw [h]; decide)

theorem Text.trimLeft_of_word (hne : w ≠ []) (hw : ∀ c ∈ w, Text.isBlank c = false) :
    Text.trimLeft (w ++ cs) = w ++ cs := by
  cases w with
  | nil => exact absurd rfl hne
  | cons c w => exact Text.trimLeft_cons (hw c List.mem_cons_self)

theorem Text.trimLeft_of_blanks (h : ∀ c ∈ before, Text.isBlank c = true) :
    Text.trimLeft (before ++ cs) = Text.trimLeft cs :=
  List.dropWhile_append_of_pos h

theorem Text.exists_trimLeft (cs : List Char) :
    ∃ before, cs = before ++ Text.trimLeft cs ∧ ∀ c ∈ before, Text.isBlank c = true :=
  ⟨cs.takeWhile Text.isBlank, List.takeWhile_append_dropWhile.symm,
    List.all_eq_true.1 List.all_takeWhile⟩

/-- Trimming takes blanks only, before what it leaves and after it. -/
theorem Text.exists_trim (cs : List Char) :
    ∃ before after, cs = before ++ Text.trim cs ++ after ∧
      (∀ c ∈ before, Text.isBlank c = true) ∧ ∀ c ∈ after, Text.isBlank c = true := by
  obtain ⟨before, hbefore, hblank⟩ := Text.exists_trimLeft cs
  obtain ⟨after, hafter, hblank'⟩ := Text.exists_trimLeft (Text.trimLeft cs).reverse
  refine ⟨before, after.reverse, ?_, hblank, fun c hc => hblank' c (List.mem_reverse.1 hc)⟩
  rw [Text.trim, List.append_assoc, ← List.reverse_append, ← hafter, List.reverse_reverse]
  exact hbefore

/-- **Trimming leaves what has no blanks in it and only blanks around it.** -/
theorem Text.trim_eq_iff (hne : w ≠ []) (hw : ∀ c ∈ w, Text.isBlank c = false) :
    Text.trim cs = w ↔
      ∃ before after, cs = before ++ w ++ after ∧
        (∀ c ∈ before, Text.isBlank c = true) ∧ ∀ c ∈ after, Text.isBlank c = true := by
  constructor
  · rintro rfl
    exact Text.exists_trim cs
  · rintro ⟨before, after, rfl, hbefore, hafter⟩
    have hleft : Text.trimLeft (before ++ w ++ after) = w ++ after := by
      rw [List.append_assoc, Text.trimLeft_of_blanks hbefore, Text.trimLeft_of_word hne hw]
    have hright : Text.trimLeft (after.reverse ++ w.reverse) = w.reverse := by
      rw [Text.trimLeft_of_blanks fun c hc => hafter c (List.mem_reverse.1 hc)]
      have hword : Text.trimLeft (w.reverse ++ []) = w.reverse ++ [] :=
        Text.trimLeft_of_word (List.reverse_ne_nil_iff.2 hne)
          fun c hc => hw c (List.mem_reverse.1 hc)
      rwa [List.append_nil] at hword
    rw [Text.trim, hleft, List.reverse_append, hright, List.reverse_reverse]

end

end Booking
