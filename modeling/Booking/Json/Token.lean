import Booking.Json.Value
/-!
# JSON tokens

A text is cut into brackets, separators, literals, numbers and strings; blanks
between tokens are space, tab, line feed and carriage return. Strings hold no
bare control character, and an escape for half of a surrogate pair is refused
unless the other half follows.
-/
namespace Booking

inductive Json.Token where
  | openArray
  | closeArray
  | openObject
  | closeObject
  | comma
  | colon
  | literal (value : Json)
  | string (value : String)

def Json.hexDigit? (c : Char) : Option Nat :=
  if c.isDigit then some (c.toNat - '0'.toNat)
  else if 'a' ≤ c ∧ c ≤ 'f' then some (c.toNat - 'a'.toNat + 10)
  else if 'A' ≤ c ∧ c ≤ 'F' then some (c.toNat - 'A'.toNat + 10)
  else none

def Json.hexUnit? (a b c d : Char) : Option Nat := do
  let a ← Json.hexDigit? a
  let b ← Json.hexDigit? b
  let c ← Json.hexDigit? c
  let d ← Json.hexDigit? d
  return ((a * 16 + b) * 16 + c) * 16 + d

def Json.isHighSurrogate (n : Nat) : Bool := 0xD800 ≤ n && n ≤ 0xDBFF
def Json.isLowSurrogate (n : Nat) : Bool := 0xDC00 ≤ n && n ≤ 0xDFFF

/-- The character that a surrogate pair stands for. -/
def Json.pairedChar (high low : Nat) : Char :=
  Char.ofNat (0x10000 + (high - 0xD800) * 0x400 + (low - 0xDC00))

def Json.letterEscape? : Char → Option Char
  | '"' => some '"'
  | '\\' => some '\\'
  | '/' => some '/'
  | 'b' => some '\x08'
  | 'f' => some '\x0c'
  | 'n' => some '\n'
  | 'r' => some '\r'
  | 't' => some '\t'
  | _ => none

/-- Reads a string up to its closing quote; `done` holds the characters before, last first. -/
def Json.readString (done : List Char) : List Char → Option (String × List Char)
  | [] => none
  | '"' :: rest => some (String.ofList done.reverse, rest)
  | '\\' :: 'u' :: a :: b :: c :: d :: rest =>
    match Json.hexUnit? a b c d with
    | none => none
    | some n =>
      if Json.isLowSurrogate n then none
      else if Json.isHighSurrogate n then
        match rest with
        | '\\' :: 'u' :: a :: b :: c :: d :: rest =>
          match Json.hexUnit? a b c d with
          | none => none
          | some low =>
            if Json.isLowSurrogate low then Json.readString (Json.pairedChar n low :: done) rest
            else none
        | _ => none
      else Json.readString (Char.ofNat n :: done) rest
  | '\\' :: c :: rest =>
    match Json.letterEscape? c with
    | none => none
    | some c => Json.readString (c :: done) rest
  | c :: rest => if c.toNat < 0x20 then none else Json.readString (c :: done) rest

def Json.isSpace (c : Char) : Bool := c == ' ' || c == '\t' || c == '\n' || c == '\r'

def Json.isNumberChar (c : Char) : Bool :=
  c.isDigit || c == '-' || c == '+' || c == '.' || c == 'e' || c == 'E'

/-- Reads the token at the start of a text that starts with no space. -/
def Json.Token.read? : List Char → Option (Json.Token × List Char)
  | '[' :: rest => some (.openArray, rest)
  | ']' :: rest => some (.closeArray, rest)
  | '\x7b' :: rest => some (.openObject, rest)
  | '\x7d' :: rest => some (.closeObject, rest)
  | ',' :: rest => some (.comma, rest)
  | ':' :: rest => some (.colon, rest)
  | 'n' :: 'u' :: 'l' :: 'l' :: rest => some (.literal .null, rest)
  | 't' :: 'r' :: 'u' :: 'e' :: rest => some (.literal (.bool true), rest)
  | 'f' :: 'a' :: 'l' :: 's' :: 'e' :: rest => some (.literal (.bool false), rest)
  | '"' :: rest => (Json.readString [] rest).map (fun q => (.string q.1, q.2))
  | cs =>
    (Json.Number.parse? (cs.takeWhile Json.isNumberChar)).map
      (fun n => (.literal (.number n), cs.dropWhile Json.isNumberChar))

theorem Json.length_of_readString {done cs : List Char} {s : String} {rest : List Char}
    (h : Json.readString done cs = some (s, rest)) : rest.length < cs.length := by
  fun_induction Json.readString done cs with
  | case1 => cases h
  | _ => simp only [List.length_cons]; grind

theorem Json.length_dropWhile_lt {p : Char → Bool} {cs : List Char} (h : cs.takeWhile p ≠ []) :
    (cs.dropWhile p).length < cs.length := by
  have hlen := congrArg List.length (List.takeWhile_append_dropWhile (p := p) (l := cs))
  rw [List.length_append] at hlen
  have := List.length_pos_iff.2 h
  omega

/-- A token takes at least one character. -/
theorem Json.Token.length_of_read? {cs rest : List Char} {t : Json.Token}
    (h : Json.Token.read? cs = some (t, rest)) : rest.length < cs.length := by
  unfold Json.Token.read? at h
  split at h
  case h_10 rest' =>
    obtain ⟨q, hq, he⟩ := Option.map_eq_some_iff.1 h
    cases he
    have := Json.length_of_readString hq
    simp only [List.length_cons]; omega
  case h_11 =>
    obtain ⟨n, hn, he⟩ := Option.map_eq_some_iff.1 h
    cases he
    apply Json.length_dropWhile_lt
    intro h0
    rw [h0] at hn
    cases hn
  all_goals
    simp only [Option.some.injEq, Prod.mk.injEq] at h
    simp only [← h.2, List.length_cons]
    omega

/-- Cuts a text into tokens; `done` holds the tokens before, last first. -/
def Json.Token.readAll (done : List Json.Token) (cs : List Char) : Option (List Json.Token) :=
  match cs with
  | [] => some done.reverse
  | c :: rest =>
    if Json.isSpace c then Json.Token.readAll done rest
    else
      match _h : Json.Token.read? (c :: rest) with
      | none => none
      | some (t, rest) => Json.Token.readAll (t :: done) rest
termination_by cs.length
decreasing_by
  · simp
  · exact Json.Token.length_of_read? _h

def Json.Token.ofText? (s : String) : Option (List Json.Token) := Json.Token.readAll [] s.toList

end Booking
