/-!
# Texts

A text is a list of characters. `Text.pieces` splits it at every separator and
keeps empty pieces; `Text.words` splits at blanks and drops them; `Text.cut`
splits once, at the first separator. A blank is a character with the Unicode
property White_Space, so the zero-width space and the byte-order mark are none.

Unsigned numerals are in ASCII digits, leading zeros allowed. `Text.numeral?`
reads a whole text; writing is core's `Nat.toDigits`, and
`Text.numeral?_toDigits` says that what is written is read back.
-/
namespace Booking

/-! ## Blanks, words and pieces -/

/-- Whether the character has the Unicode property White_Space. -/
def Text.isBlank (c : Char) : Bool :=
  let n := c.toNat
  (0x09 ≤ n && n ≤ 0x0D) || n == 0x20 || n == 0x85 || n == 0xA0 || n == 0x1680 ||
    (0x2000 ≤ n && n ≤ 0x200A) || n == 0x2028 || n == 0x2029 || n == 0x202F || n == 0x205F ||
    n == 0x3000

/-- The pieces between the separators, empty ones too: one more than there are separators. -/
def Text.pieces (isSep : Char → Bool) : List Char → List (List Char)
  | [] => [[]]
  | c :: cs =>
    match isSep c, Text.pieces isSep cs with
    | true, ps => [] :: ps
    | false, [] => [[c]]
    | false, p :: ps => (c :: p) :: ps

/-- The longest runs of characters that are not blank. -/
def Text.words (cs : List Char) : List (List Char) :=
  (Text.pieces Text.isBlank cs).filter (fun w => !w.isEmpty)

/-- What stands before and after the first separator, if there is one. -/
def Text.cut (sep : Char) : List Char → Option (List Char × List Char)
  | [] => none
  | c :: cs =>
    if c = sep then some ([], cs)
    else (Text.cut sep cs).map (fun q => (c :: q.1, q.2))

def Text.trimLeft (cs : List Char) : List Char := cs.dropWhile Text.isBlank

def Text.trim (cs : List Char) : List Char :=
  (Text.trimLeft (Text.trimLeft cs).reverse).reverse

theorem Text.pieces_ne_nil (isSep : Char → Bool) (cs : List Char) :
    Text.pieces isSep cs ≠ [] := by
  cases cs with
  | nil => simp [Text.pieces]
  | cons c cs =>
    unfold Text.pieces
    split <;> simp

theorem Text.eq_of_cut {sep : Char} : ∀ {cs a b : List Char},
    Text.cut sep cs = some (a, b) → cs = a ++ sep :: b
  | [], _, _, h => by simp [Text.cut] at h
  | c :: cs, a, b, h => by
    unfold Text.cut at h
    split at h
    · rename_i hc
      cases h
      simp [hc]
    · obtain ⟨q, hq, he⟩ := Option.map_eq_some_iff.1 h
      cases he
      simpa using Text.eq_of_cut hq

/-! ## Decimal numerals -/

/-- Reads a non-empty run of ASCII digits; anything else is refused. -/
def Text.numeral? (cs : List Char) : Option Nat :=
  if cs.isEmpty || !cs.all Char.isDigit then none else some (Nat.ofDigitChars 10 cs 0)

/-- Two to the power of 64, above every number of 64 bits. -/
def Text.bound64 : Nat := 0x10000000000000000

/-- Reads a numeral whose value is below `bound`. -/
def Text.numeralBelow? (bound : Nat) (cs : List Char) : Option Nat :=
  (Text.numeral? cs).bind (fun n => if n < bound then some n else none)

/-- The digits of `n`, with zeros in front up to the given width. -/
def Text.padded (width n : Nat) : List Char :=
  let ds := Nat.toDigits 10 n
  List.replicate (width - ds.length) '0' ++ ds

def Text.integer (i : Int) : List Char :=
  if i < 0 then '-' :: Nat.toDigits 10 i.natAbs else Nat.toDigits 10 i.natAbs

theorem Text.numeral?_toDigits (n : Nat) : Text.numeral? (Nat.toDigits 10 n) = some n := by
  have hall : (Nat.toDigits 10 n).all Char.isDigit = true :=
    List.all_eq_true.2 (fun c hc => Nat.isDigit_of_mem_toDigits (by omega) (by omega) hc)
  simp [Text.numeral?, hall, Nat.toDigits_ne_nil, Nat.ofDigitChars_ten_toDigits]

theorem Text.numeralBelow?_toDigits {bound n : Nat} (h : n < bound) :
    Text.numeralBelow? bound (Nat.toDigits 10 n) = some n := by
  simp [Text.numeralBelow?, Text.numeral?_toDigits, h]

end Booking
