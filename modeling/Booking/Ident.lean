/-!
# Identifiers

An identifier is a number of 128 bits. Its text is 26 characters of Crockford's
base 32, five bits each and the highest first; the alphabet leaves out I, L, O
and U. Reading takes either case. 26 characters have 130 bits, and the two
highest are dropped.
-/
namespace Booking

/-- Two to the power of 128, above the number of every identifier. -/
def Ident.bound : Nat := 0x100000000000000000000000000000000

structure Ident where
  val : Nat
  val_lt : val < Ident.bound
deriving DecidableEq

/-- The identifier with the number's lowest 128 bits. -/
def Ident.ofNat (n : Nat) : Ident := ⟨n % Ident.bound, Nat.mod_lt _ (by decide)⟩

/-- The digits of base 32, in order of value. -/
def Ident.alphabet : List Char := "0123456789ABCDEFGHJKMNPQRSTVWXYZ".toList

def Ident.width : Nat := 26

def Ident.digitChar (d : Nat) : Char := Ident.alphabet[d]?.getD '0'

/-- The value of a digit, in either case. -/
def Ident.digitValue? (c : Char) : Option Nat :=
  Ident.alphabet.findIdx? (fun d => d == c || d == c.toUpper)

/-- The last `n` digits of the number, highest first. -/
def Ident.digits : Nat → Nat → List Char
  | 0, _ => []
  | n + 1, k => Ident.digits n (k / 32) ++ [Ident.digitChar (k % 32)]

def Ident.text (i : Ident) : String := String.ofList (Ident.digits Ident.width i.val)

inductive IdentError where
  | wrongLength
  | wrongCharacter
deriving DecidableEq, Repr

def IdentError.message : IdentError → String
  | .wrongLength => "invalid length"
  | .wrongCharacter => "invalid character"

def Ident.numberOf? (cs : List Char) : Option Nat :=
  cs.foldlM (fun n c => (Ident.digitValue? c).map (fun d => 32 * n + d)) 0

def Ident.parse (s : String) : Except IdentError Ident :=
  if s.utf8ByteSize ≠ Ident.width then .error .wrongLength
  else
    match Ident.numberOf? s.toList with
    | none => .error .wrongCharacter
    | some n => .ok (Ident.ofNat n)

instance : Repr Ident := ⟨fun i _ => Ident.text i⟩

end Booking
