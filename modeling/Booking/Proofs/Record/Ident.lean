import Booking.Ident
import Booking.Proofs.Text.Size
/-!
# Identifiers are read back

The 26 digits of an identifier are read as its number (`Ident.parse_text`): their 130 bits are more than
its 128, so the first digit is 7 at most and reading drops nothing.
-/
namespace Booking

theorem Ident.digitValue?_digitChar : ∀ d < 32, Ident.digitValue? (Ident.digitChar d) = some d := by
  decide +kernel

theorem Ident.utf8Size_digitChar (d : Nat) : (Ident.digitChar d).utf8Size = 1 := by
  have halphabet : Ident.alphabet.all (fun c => c.utf8Size == 1) = true := by decide +kernel
  unfold Ident.digitChar
  cases h : Ident.alphabet[d]? with
  | none => rfl
  | some c => exact eq_of_beq (List.all_eq_true.1 halphabet c (List.mem_of_getElem? h))

theorem Ident.length_digits : ∀ (n k : Nat), (Ident.digits n k).length = n
  | 0, _ => rfl
  | n + 1, k => by
    rw [Ident.digits, List.length_append, Ident.length_digits n, List.length_singleton]

theorem Ident.utf8Size_of_mem_digits : ∀ (n k : Nat), ∀ c ∈ Ident.digits n k, c.utf8Size = 1
  | 0, _, c, hc => absurd hc List.not_mem_nil
  | n + 1, k, c, hc => by
    rw [Ident.digits, List.mem_append, List.mem_singleton] at hc
    rcases hc with hc | rfl
    · exact Ident.utf8Size_of_mem_digits n (k / 32) c hc
    · exact Ident.utf8Size_digitChar _

/-- What is read of the last digits of a number is the rest of its division by a power of 32. -/
theorem Ident.numberOf?_digits : ∀ (n k : Nat),
    Ident.numberOf? (Ident.digits n k) = some (k % Nat.pow 32 n)
  | 0, k => by
    rw [show Nat.pow 32 0 = 1 from rfl, Nat.mod_one]
    rfl
  | n + 1, k => by
    have hhigh := Ident.numberOf?_digits n (k / 32)
    have hsplit : k % Nat.pow 32 (n + 1) = 32 * (k / 32 % Nat.pow 32 n) + k % 32 := by
      rw [show Nat.pow 32 (n + 1) = 32 * Nat.pow 32 n from Nat.mul_comm _ _, Nat.mod_mul,
        Nat.add_comm]
    unfold Ident.numberOf? at hhigh ⊢
    rw [Ident.digits, List.foldlM_append, hhigh, hsplit]
    simp [Ident.digitValue?_digitChar _ (Nat.mod_lt k (by decide))]

/-- **The text of an identifier is read as that identifier.** -/
theorem Ident.parse_text (i : Ident) : Ident.parse i.text = .ok i := by
  have hsize : i.text.utf8ByteSize = Ident.width := by
    rw [Ident.text, Text.utf8ByteSize_of_narrow (Ident.utf8Size_of_mem_digits _ _),
      Ident.length_digits]
  have hbound : Ident.bound ≤ Nat.pow 32 Ident.width := by decide
  have hnumber : Ident.numberOf? i.text.toList = some i.val := by
    rw [Ident.text, String.toList_ofList, Ident.numberOf?_digits,
      Nat.mod_eq_of_lt (Nat.lt_of_lt_of_le i.val_lt hbound)]
  have hsame : Ident.ofNat i.val = i := by
    simp only [Ident.ofNat, Nat.mod_eq_of_lt i.val_lt]
  rw [Ident.parse, if_neg (not_not_intro hsize), hnumber]
  exact congrArg Except.ok hsame

end Booking
