import Booking.Text.Basic
/-!
# How long a text is

The length of a text in bytes is at least its length in characters, and the two are the same where every
character takes one byte. The digits that are written for a number are never more than those that it was
read from.
-/
namespace Booking

/-! ## Bytes -/

theorem Text.utf8ByteSize_cons (c : Char) (cs : List Char) :
    (String.ofList (c :: cs)).utf8ByteSize = c.utf8Size + (String.ofList cs).utf8ByteSize := by
  rw [String.ofList_cons, String.utf8ByteSize_append, String.utf8ByteSize_singleton]

theorem Text.utf8ByteSize_of_narrow : ∀ {cs : List Char}, (∀ c ∈ cs, c.utf8Size = 1) →
    (String.ofList cs).utf8ByteSize = cs.length
  | [], _ => rfl
  | c :: cs, h => by
    obtain ⟨hc, hcs⟩ := List.forall_mem_cons.1 h
    rw [Text.utf8ByteSize_cons, hc, Text.utf8ByteSize_of_narrow hcs, List.length_cons, Nat.add_comm]

theorem Text.length_le_utf8ByteSize_ofList : ∀ (cs : List Char),
    cs.length ≤ (String.ofList cs).utf8ByteSize
  | [] => Nat.zero_le _
  | c :: cs => by
    have hc := c.utf8Size_pos
    have hrest := Text.length_le_utf8ByteSize_ofList cs
    rw [Text.utf8ByteSize_cons, List.length_cons]
    omega

theorem Text.length_le_utf8ByteSize (s : String) : s.toList.length ≤ s.utf8ByteSize := by
  have h := Text.length_le_utf8ByteSize_ofList s.toList
  rwa [String.ofList_toList] at h

theorem Text.utf8Size_of_isDigit {c : Char} (h : c.isDigit = true) : c.utf8Size = 1 := by
  simp only [Char.isDigit, Bool.and_eq_true, decide_eq_true_eq] at h
  exact Char.utf8Size_eq_one_iff.2 (UInt32.le_trans h.2 (by decide))

/-! ## Digits -/

theorem Text.ofDigitChars_lt : ∀ {cs : List Char} (init : Nat), (∀ c ∈ cs, c.isDigit = true) →
    Nat.ofDigitChars 10 cs init < (init + 1) * Nat.pow 10 cs.length
  | [], init, _ => by simp
  | c :: cs, init, h => by
    obtain ⟨hc, hcs⟩ := List.forall_mem_cons.1 h
    have hdigit : c.toNat - '0'.toNat ≤ 9 := by
      simp only [Char.isDigit, Bool.and_eq_true, decide_eq_true_eq, UInt32.le_iff_toNat_le] at hc
      have hle : c.toNat ≤ 57 := hc.2
      have hzero : '0'.toNat = 48 := rfl
      omega
    have hpow : Nat.pow 10 (c :: cs).length = Nat.pow 10 cs.length * 10 := rfl
    calc Nat.ofDigitChars 10 (c :: cs) init
        = Nat.ofDigitChars 10 cs (10 * init + (c.toNat - '0'.toNat)) := Nat.ofDigitChars_cons
      _ < (10 * init + (c.toNat - '0'.toNat) + 1) * Nat.pow 10 cs.length :=
        Text.ofDigitChars_lt _ hcs
      _ ≤ (init + 1) * 10 * Nat.pow 10 cs.length := Nat.mul_le_mul_right _ (by omega)
      _ = (init + 1) * Nat.pow 10 (c :: cs).length := by
        rw [hpow, Nat.mul_assoc, Nat.mul_comm 10]

/-- **A number has no more digits than the run of digits it was read from.** -/
theorem Text.length_toDigits_le {cs : List Char} (hne : cs ≠ [])
    (h : ∀ c ∈ cs, c.isDigit = true) :
    (Nat.toDigits 10 (Nat.ofDigitChars 10 cs 0)).length ≤ cs.length := by
  have hlt := Text.ofDigitChars_lt 0 h
  rw [Nat.zero_add, Nat.one_mul] at hlt
  exact (Nat.length_toDigits_le_iff (by decide) (List.length_pos_iff.2 hne)).2 hlt

end Booking
