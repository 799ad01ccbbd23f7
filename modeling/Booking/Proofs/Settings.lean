import Booking.Proofs.Text.Numeral
import Booking.Settings
/-!
# What settings are read as

A setting is a numeral with blanks around it or none, and a plus sign before it or none
(`Settings.Spells`); a minus sign never makes a number that counts. Both settings are read as such
numerals (`Settings.plain?`), each up to the bound of its own type. Beyond it the number of slots takes
its default, and the span takes the limit either way, since a day count that is too large for its type,
or for its type in milliseconds, is larger than the limit (`Settings.ofLookup_reads_numerals`).
-/
namespace Booking

/-- The text is digits, at least one, that say `n`, with a plus sign before them or without. -/
def Settings.IsNumeral (cs : List Char) (n : Nat) : Prop :=
  ∃ digits, (cs = digits ∨ cs = '+' :: digits) ∧
    digits ≠ [] ∧ (∀ c ∈ digits, c.isDigit = true) ∧ Nat.ofDigitChars 10 digits 0 = n

/-- The value is a numeral that says `n`, with nothing but blanks around it. -/
def Settings.Spells (value : String) (n : Nat) : Prop :=
  ∃ before numeral after, value.toList = before ++ numeral ++ after ∧
    (∀ c ∈ before, Text.isBlank c = true) ∧ (∀ c ∈ after, Text.isBlank c = true) ∧
    Settings.IsNumeral numeral n

/-- The setting is there, and it spells `n`. -/
def Settings.Sets (setting : Option String) (n : Nat) : Prop :=
  ∃ value ∈ setting, Settings.Spells value n

/-- Reads a numeral of any size, a plus sign allowed. -/
def Settings.plain? : List Char → Option Nat
  | '+' :: cs => Text.numeral? cs
  | cs => Text.numeral? cs

section

variable {cs : List Char} {n : Nat} {value : String} {setting : Option String}

/-! ## Numerals -/

theorem Settings.plain?_of_ne (h : ∀ digits, cs = '+' :: digits → False) :
    Settings.plain? cs = Text.numeral? cs := by
  unfold Settings.plain?
  split
  · exact (h _ rfl).elim
  · rfl

theorem Settings.plain?_eq_some_iff :
    Settings.plain? cs = some n ↔ Settings.IsNumeral cs n := by
  constructor
  · intro h
    unfold Settings.plain? at h
    split at h
    · exact ⟨_, .inr rfl, Text.numeral?_eq_some_iff.1 h⟩
    · exact ⟨_, .inl rfl, Text.numeral?_eq_some_iff.1 h⟩
  · rintro ⟨digits, rfl | rfl, h⟩
    · rw [Settings.plain?_of_ne]
      · exact Text.numeral?_eq_some_iff.2 h
      · rintro _ rfl
        cases h.2.1 '+' List.mem_cons_self
    · exact Text.numeral?_eq_some_iff.2 h

theorem Settings.IsNumeral.ne_nil (h : Settings.IsNumeral cs n) : cs ≠ [] := by
  obtain ⟨digits, rfl | rfl, hne, -⟩ := h
  · exact hne
  · exact List.cons_ne_nil _ _

theorem Settings.IsNumeral.isBlank_eq_false (h : Settings.IsNumeral cs n) :
    ∀ c ∈ cs, Text.isBlank c = false := by
  obtain ⟨digits, hcs, -, hdigits, -⟩ := h
  have hblank : ∀ c ∈ digits, Text.isBlank c = false :=
    fun c hc => Text.isBlank_of_isDigit (hdigits c hc)
  rcases hcs with rfl | rfl
  · exact hblank
  · exact List.forall_mem_cons.2 ⟨by decide, hblank⟩

/-- **A value spells what is read of it when its blanks are trimmed.** -/
theorem Settings.spells_iff :
    Settings.Spells value n ↔ Settings.plain? (Text.trim value.toList) = some n := by
  rw [Settings.plain?_eq_some_iff]
  constructor
  · rintro ⟨before, numeral, after, hvalue, hbefore, hafter, hnumeral⟩
    rwa [(Text.trim_eq_iff hnumeral.ne_nil hnumeral.isBlank_eq_false).2
      ⟨before, after, hvalue, hbefore, hafter⟩]
  · intro h
    obtain ⟨before, after, hvalue, hbefore, hafter⟩ := Text.exists_trim value.toList
    exact ⟨before, _, after, hvalue, hbefore, hafter, h⟩

/-! ## The two types -/

theorem Settings.unsigned?_eq_some_iff :
    Settings.unsigned? cs = some n ↔ Settings.plain? cs = some n ∧ n < Text.bound64 := by
  unfold Settings.unsigned?
  split
  · exact Text.numeralBelow?_eq_some_iff
  · rename_i hplus
    rw [Settings.plain?_of_ne hplus]
    exact Text.numeralBelow?_eq_some_iff

/-- A positive integer is read from a numeral without a minus sign. -/
theorem Settings.signed?_eq_some_iff {days : Int} (hpos : 0 < days) :
    Settings.signed? cs = some days ↔
      ∃ n : Nat, Settings.plain? cs = some n ∧ n < Text.bound64 / 2 ∧ (n : Int) = days := by
  have hbelow {digits : List Char} :
      (Text.numeralBelow? (Text.bound64 / 2) digits).map Int.ofNat = some days ↔
        ∃ n : Nat, Text.numeral? digits = some n ∧ n < Text.bound64 / 2 ∧ (n : Int) = days := by
    simp only [Option.map_eq_some_iff, Text.numeralBelow?_eq_some_iff, and_assoc, Int.ofNat_eq_natCast]
  unfold Settings.signed?
  split
  · rename_i digits
    constructor
    · intro h
      obtain ⟨_, hread, hminus⟩ := Option.map_eq_some_iff.1 h
      obtain ⟨n, -, hn⟩ := Option.bind_eq_some_iff.1 hread
      cases hn
      omega
    · rintro ⟨n, hn, -⟩
      cases hn
  · exact hbelow
  · rename_i hplus
    rw [Settings.plain?_of_ne hplus]
    exact hbelow

/-- A span is the limit unless the value is read as a positive number of days. -/
theorem Settings.spanOf_cases (value : String) :
    (∃ days : Int, 0 < days ∧ Settings.signed? (Text.trim value.toList) = some days ∧
      Settings.spanOf (some value) =
        min (Instant.saturate (days * Instant.msPerDay)) Desk.widestSpan) ∨
    (∀ days : Int, 0 < days → Settings.signed? (Text.trim value.toList) ≠ some days) ∧
      Settings.spanOf (some value) = Desk.widestSpan := by
  unfold Settings.spanOf
  rw [Option.bind_some]
  cases hread : Settings.signed? (Text.trim value.toList) with
  | none => exact .inr ⟨fun _ _ => Option.some_ne_none _ ∘ Eq.symm, rfl⟩
  | some days =>
    by_cases hpos : 0 < days
    · exact .inl ⟨days, hpos, rfl, if_pos hpos⟩
    · refine .inr ⟨fun days' hpos' h => ?_, if_neg hpos⟩
      cases h
      exact hpos hpos'

/-! ## The two settings -/

theorem Settings.sets_some_iff : Settings.Sets (some value) n ↔ Settings.Spells value n := by
  simp [Settings.Sets]

/-- **A number of days is the span up to the limit**, however large it is: what does not fit into 64 bits
takes the limit as a default. -/
theorem Settings.spanOf_of_sets (hpos : 1 ≤ n) (h : Settings.Sets setting n) :
    Settings.spanOf setting = (min n 366 : Nat) * Instant.msPerDay := by
  obtain ⟨value, rfl, hspells⟩ := h
  have hread := Settings.spells_iff.1 hspells
  have hlimit : Desk.widestSpan = 366 * 86400000 := rfl
  have hday : Instant.msPerDay = 86400000 := rfl
  rcases Settings.spanOf_cases value with ⟨days, hdays, hsigned, hspan⟩ | ⟨hnone, hspan⟩
  · obtain ⟨m, hm, -, rfl⟩ := (Settings.signed?_eq_some_iff hdays).1 hsigned
    obtain rfl : n = m := Option.some.inj (hread.symm.trans hm)
    rw [hspan, hlimit, hday]
    simp only [Instant.saturate, Instant.least, Instant.greatest]
    omega
  · have hlarge : ¬ n < Text.bound64 / 2 := fun hlt =>
      hnone n (by omega) ((Settings.signed?_eq_some_iff (by omega)).2 ⟨n, hread, hlt, rfl⟩)
    have hbound : Text.bound64 = 0x10000000000000000 := rfl
    rw [hspan, hlimit, hday]
    omega

theorem Settings.spanOf_of_not_sets (h : ∀ n, 1 ≤ n → ¬ Settings.Sets setting n) :
    Settings.spanOf setting = 366 * Instant.msPerDay := by
  have hlimit : Desk.widestSpan = 366 * Instant.msPerDay := rfl
  cases setting with
  | none => rfl
  | some value =>
    simp only [Settings.sets_some_iff] at h
    rcases Settings.spanOf_cases value with ⟨days, hdays, hsigned, -⟩ | ⟨-, hspan⟩
    · obtain ⟨n, hn, -, rfl⟩ := (Settings.signed?_eq_some_iff hdays).1 hsigned
      exact absurd (Settings.spells_iff.2 hn) (h n (by omega))
    · rw [hspan, hlimit]

theorem Settings.exists_days (setting : Option String) :
    ∃ days : Nat, 1 ≤ days ∧ days ≤ 366 ∧ Settings.spanOf setting = days * Instant.msPerDay := by
  by_cases h : ∃ n, 1 ≤ n ∧ Settings.Sets setting n
  · obtain ⟨n, hpos, hn⟩ := h
    exact ⟨min n 366, by omega, by omega, Settings.spanOf_of_sets hpos hn⟩
  · refine ⟨366, by omega, by omega, Settings.spanOf_of_not_sets fun n hpos hn => h ⟨n, hpos, hn⟩⟩

theorem Settings.slotsOf_le (setting : Option String) :
    Settings.slotsOf setting ≤ Settings.slotLimit := by
  unfold Settings.slotsOf
  split
  · decide
  · exact Nat.min_le_right _ _

theorem Settings.slotsOf_of_sets (hn : n < Text.bound64) (h : Settings.Sets setting n) :
    Settings.slotsOf setting = min n Settings.slotLimit := by
  obtain ⟨value, rfl, hspells⟩ := h
  have hread := Settings.unsigned?_eq_some_iff.2 ⟨Settings.spells_iff.1 hspells, hn⟩
  rw [Settings.slotsOf, Option.bind_some, hread]

theorem Settings.slotsOf_of_not_sets (h : ∀ n < Text.bound64, ¬ Settings.Sets setting n) :
    Settings.slotsOf setting = Settings.standardSlots := by
  unfold Settings.slotsOf
  cases hread : setting.bind fun s => Settings.unsigned? (Text.trim s.toList) with
  | none => rfl
  | some n =>
    obtain ⟨value, hvalue, hunsigned⟩ := Option.bind_eq_some_iff.1 hread
    obtain ⟨hplain, hn⟩ := Settings.unsigned?_eq_some_iff.1 hunsigned
    exact absurd ⟨value, hvalue, Settings.spells_iff.2 hplain⟩ (h n hn)

end

/-- **Settings are read as numerals.** Whatever is set, the number of slots is not above its limit, and
the span is a whole number of days from 1 to 366. A positive number of days that is spelled out is the
span up to that limit, however many digits it has, and a number of slots below two to the power of 64,
zero too, is the number of slots up to its limit. Anything else that is set, and nothing at all, gives
366 days and the standard number of slots. -/
theorem Settings.ofLookup_reads_numerals (lookup : String → Option String) :
    ((Settings.ofLookup lookup).maxSlots ≤ Settings.slotLimit ∧
      ∃ n : Nat, 1 ≤ n ∧ n ≤ 366 ∧
        (Settings.ofLookup lookup).maxSpan = n * Instant.msPerDay) ∧
    ((∀ n : Nat, 1 ≤ n → Settings.Sets (lookup "RESERVO_MAX_SPAN_DAYS") n →
        (Settings.ofLookup lookup).maxSpan = (min n 366 : Nat) * Instant.msPerDay) ∧
      ((∀ n : Nat, 1 ≤ n → ¬ Settings.Sets (lookup "RESERVO_MAX_SPAN_DAYS") n) →
        (Settings.ofLookup lookup).maxSpan = 366 * Instant.msPerDay)) ∧
    (∀ n < Text.bound64, Settings.Sets (lookup "RESERVO_MAX_SLOTS") n →
      (Settings.ofLookup lookup).maxSlots = min n Settings.slotLimit) ∧
    ((∀ n < Text.bound64, ¬ Settings.Sets (lookup "RESERVO_MAX_SLOTS") n) →
      (Settings.ofLookup lookup).maxSlots = Settings.standardSlots) :=
  ⟨⟨Settings.slotsOf_le _, Settings.exists_days _⟩,
    ⟨fun _ => Settings.spanOf_of_sets, Settings.spanOf_of_not_sets⟩,
    fun _ => Settings.slotsOf_of_sets, Settings.slotsOf_of_not_sets⟩

/-- A number of days that does not fit into 64 bits gives the limit, and blanks, a plus sign and zeros in
front do not matter. A minus sign or a word gives the defaults. -/
theorem Settings.ofLookup_reads_numerals_large :
    let settings := Settings.ofLookup fun key =>
      if key = "RESERVO_MAX_SLOTS" then some " +0250\t" else some "9223372036854775808"
    let defaults := Settings.ofLookup fun key =>
      if key = "RESERVO_MAX_SLOTS" then some "lots" else some "-3"
    (settings.maxSlots = 250 ∧ settings.maxSpan = 366 * Instant.msPerDay) ∧
      defaults.maxSlots = 10000 ∧ defaults.maxSpan = 366 * Instant.msPerDay := by
  intro settings defaults
  obtain ⟨-, ⟨hspan, -⟩, hslots, -⟩ := Settings.ofLookup_reads_numerals fun key =>
    if key = "RESERVO_MAX_SLOTS" then some " +0250\t" else some "9223372036854775808"
  obtain ⟨-, ⟨-, hnoSpan⟩, -, hnoSlots⟩ := Settings.ofLookup_reads_numerals fun key =>
    if key = "RESERVO_MAX_SLOTS" then some "lots" else some "-3"
  refine ⟨⟨hslots 250 (by decide) ?_, hspan 9223372036854775808 (by decide) ?_⟩, hnoSlots ?_,
    hnoSpan ?_⟩
  · exact Settings.sets_some_iff.2 (Settings.spells_iff.2 (by decide))
  · exact Settings.sets_some_iff.2 (Settings.spells_iff.2 (by decide))
  · intro n _ h
    cases Settings.spells_iff.1 (Settings.sets_some_iff.1 h)
  · intro n _ h
    cases Settings.spells_iff.1 (Settings.sets_some_iff.1 h)

end Booking
