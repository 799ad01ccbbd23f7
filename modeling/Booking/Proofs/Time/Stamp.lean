import Booking.Proofs.Recurrence.Canonical
import Booking.Proofs.Time.Calendar
import Booking.Time.Stamp
/-!
# Timestamps are read back

What is written for an instant is read as that instant (`Stamp.parse?_text?`), whether its year has four
digits, more of them or a sign, and whether it falls on a full second or not. The reader takes each
number up to the separator behind it; a padded number has as many digits as the reader allows there.
-/
namespace Booking

/-! ## Numbers -/

section

variable {width n : Nat} {c sep : Char} {ds rest : List Char}

theorem Text.isDigit_padded (width n : Nat) : ∀ c ∈ Text.padded width n, c.isDigit = true := by
  intro c hc
  rw [Text.padded, List.mem_append] at hc
  rcases hc with hzero | hdigit
  · rw [List.eq_of_mem_replicate hzero]
    rfl
  · exact Nat.isDigit_of_mem_toDigits (by decide) (by decide) hdigit

theorem Text.padded_ne_nil : Text.padded width n ≠ [] :=
  List.append_ne_nil_of_right_ne_nil _ Nat.toDigits_ne_nil

theorem Text.length_padded (hwidth : 0 < width) (hn : n < 10 ^ width) :
    (Text.padded width n).length = width := by
  have := (Nat.length_toDigits_le_iff (by decide) hwidth).2 hn
  rw [Text.padded, List.length_append, List.length_replicate]
  omega

theorem Text.ofDigitChars_padded : Nat.ofDigitChars 10 (Text.padded width n) 0 = n := by
  rw [Text.padded, Nat.ofDigitChars_append, Nat.ofDigitChars_replicate_zero, Nat.mul_zero,
    Nat.ofDigitChars_ten_toDigits]

theorem Text.trimLeft_digits (hne : ds ≠ []) (hds : ∀ c ∈ ds, c.isDigit = true) :
    Text.trimLeft (ds ++ rest) = ds ++ rest :=
  Text.trimLeft_of_word hne fun c hc => Text.isBlank_of_isDigit (hds c hc)

/-- A run of digits ends where its digits end, if there is room for them. -/
theorem Stamp.run?_digits (hne : ds ≠ []) (hds : ∀ c ∈ ds, c.isDigit = true)
    (hlength : ds.length ≤ width) (hsep : sep.isDigit = false) :
    Stamp.run? width (ds ++ sep :: rest) = some (Nat.ofDigitChars 10 ds 0, sep :: rest) := by
  have hrest : ((sep :: rest).take (width - ds.length)).takeWhile Char.isDigit = [] := by
    cases width - ds.length with
    | zero => rfl
    | succ k => exact List.takeWhile_cons_of_neg (by rw [hsep]; decide)
  have hrun : ((ds ++ sep :: rest).take width).takeWhile Char.isDigit = ds := by
    rw [List.take_append, List.take_of_length_le hlength, List.takeWhile_append_of_pos hds, hrest,
      List.append_nil]
  have hfull : ds.isEmpty = false := List.isEmpty_eq_false_iff.2 hne
  simp only [Stamp.run?, hrun, hfull, List.drop_left, Bool.false_eq_true, if_false]

theorem Stamp.number?_padded (hn : n < 100) (hsep : sep.isDigit = false) :
    Stamp.number? (Text.padded 2 n ++ sep :: rest) = some (n, sep :: rest) := by
  have hds := Text.isDigit_padded 2 n
  rw [Stamp.number?, Text.trimLeft_digits Text.padded_ne_nil hds,
    Stamp.run?_digits Text.padded_ne_nil hds (Nat.le_of_eq (Text.length_padded (by decide) hn)) hsep,
    Text.ofDigitChars_padded]

theorem Stamp.separator?_cons (h : Text.isBlank sep = false) :
    Stamp.separator? sep (sep :: rest) = some rest := by
  simp only [Stamp.separator?, Text.trimLeft_cons h, if_true]

end

/-! ## Dates and times of day -/

section

variable {rest : List Char}

/-- A year is read back from its text: behind a sign with all its digits, else with four. -/
theorem Stamp.year?_yearText (year : Int) :
    Stamp.year? (Stamp.yearText year ++ '-' :: rest) = some (year, '-' :: rest) := by
  have hne : Text.padded 4 year.natAbs ≠ [] := Text.padded_ne_nil
  have hds := Text.isDigit_padded 4 year.natAbs
  have hsigned : Stamp.run? (Text.padded 4 year.natAbs ++ '-' :: rest).length
      (Text.padded 4 year.natAbs ++ '-' :: rest) = some (year.natAbs, '-' :: rest) := by
    rw [Stamp.run?_digits hne hds (by rw [List.length_append]; omega) (by decide),
      Text.ofDigitChars_padded]
  unfold Stamp.yearText Stamp.year?
  by_cases hneg : year < 0
  · simp only [if_pos hneg, List.cons_append, Text.trimLeft_cons (show Text.isBlank '-' = false by decide),
      hsigned, Option.map_some]
    rw [Int.ofNat_natAbs_of_nonpos (by omega), Int.neg_neg]
  by_cases hlong : year ≤ 9999
  · have hfour : Stamp.run? 4 (Text.padded 4 year.natAbs ++ '-' :: rest) =
        some (year.natAbs, '-' :: rest) := by
      rw [Stamp.run?_digits hne hds (Nat.le_of_eq (Text.length_padded (by decide) (by omega)))
        (by decide), Text.ofDigitChars_padded]
    simp only [if_neg hneg, if_pos hlong, Text.trimLeft_digits hne hds]
    -- the first digit is no sign
    obtain ⟨c, ds, hcons⟩ := List.exists_cons_of_ne_nil hne
    have hc : c.isDigit = true := hds c (by rw [hcons]; exact List.mem_cons_self)
    rw [hcons, List.cons_append] at hfour ⊢
    split
    · rename_i heq
      rw [(List.cons.inj heq).1] at hc
      exact absurd hc (by decide)
    · rename_i heq
      rw [(List.cons.inj heq).1] at hc
      exact absurd hc (by decide)
    · rw [hfour, Option.map_some, Int.natAbs_of_nonneg (by omega)]
  · simp only [if_neg hneg, if_neg hlong, List.cons_append,
      Text.trimLeft_cons (show Text.isBlank '+' = false by decide), hsigned, Option.map_some]
    rw [Int.natAbs_of_nonneg (by omega)]

theorem Stamp.date?_text {d : Date} (hvalid : d.isValid = true)
    (hday : Date.hasDay d.dayNumber = true) :
    Stamp.date? (Stamp.yearText d.year ++ '-' :: (Text.padded 2 d.month ++
      '-' :: (Text.padded 2 d.day ++ 'T' :: rest))) = some (d, rest) := by
  have hdash : Text.isBlank '-' = false := by decide
  obtain ⟨hmonth, hmonth', -, hlast⟩ := Date.isValid_iff.1 hvalid
  have hlength := Date.monthLength_le d.year d.month
  simp only [Stamp.date?, Stamp.year?_yearText, Stamp.separator?_cons hdash,
    Stamp.number?_padded (show d.month < 100 by omega) (show '-'.isDigit = false by decide),
    Stamp.number?_padded (show d.day < 100 by omega) (show 'T'.isDigit = false by decide),
    Option.bind_eq_bind, Option.bind_some, hvalid, hday, Bool.and_self, if_true]

/-- The fraction of a timestamp, up to its end. -/
theorem Stamp.fraction?_padded {ms : Nat} (hms : ms < 1000) :
    Stamp.fraction? ((if ms = 0 then [] else '.' :: Text.padded 3 ms) ++ ['Z']) =
      some (ms, ['Z']) := by
  by_cases hzero : ms = 0
  · rw [if_pos hzero, hzero]
    rfl
  · have hds := Text.isDigit_padded 3 ms
    have hrun : (Text.padded 3 ms ++ ['Z']).takeWhile Char.isDigit = Text.padded 3 ms := by
      rw [List.takeWhile_append_of_pos hds, List.takeWhile_cons_of_neg (by decide), List.append_nil]
    have hrest : (Text.padded 3 ms ++ ['Z']).dropWhile Char.isDigit = ['Z'] := by
      rw [List.dropWhile_append_of_pos hds, List.dropWhile_cons_of_neg (by decide)]
    have hfull : (Text.padded 3 ms).isEmpty = false := List.isEmpty_eq_false_iff.2 Text.padded_ne_nil
    have hthree : (Text.padded 3 ms ++ ['0', '0']).take 3 = Text.padded 3 ms :=
      List.take_left' (Text.length_padded (by decide) hms)
    simp only [if_neg hzero, List.cons_append, Stamp.fraction?, hrun, hrest, hfull, hthree,
      Text.ofDigitChars_padded, Bool.false_eq_true, if_false]

theorem Stamp.time?_text {hour minute second ms : Nat} (hhour : hour < 24) (hminute : minute < 60)
    (hsecond : second < 60) (hms : ms < 1000) :
    Stamp.time? (Text.padded 2 hour ++ ':' :: (Text.padded 2 minute ++ ':' :: (Text.padded 2 second ++
      ((if ms = 0 then [] else '.' :: Text.padded 3 ms) ++ ['Z'])))) =
      some (((hour : Int) * 60 + minute) * 60 + second, (ms : Int), ['Z']) := by
  have hcolon : Text.isBlank ':' = false := by decide
  have hdigit : ':'.isDigit = false := by decide
  have hseconds : Stamp.number? (Text.padded 2 second ++
      ((if ms = 0 then [] else '.' :: Text.padded 3 ms) ++ ['Z'])) =
      some (second, (if ms = 0 then [] else '.' :: Text.padded 3 ms) ++ ['Z']) := by
    by_cases hzero : ms = 0
    · rw [if_pos hzero]
      exact Stamp.number?_padded (by omega) (by decide)
    · rw [if_neg hzero]
      exact Stamp.number?_padded (by omega) (by decide)
  simp only [Stamp.time?, Stamp.number?_padded (show hour < 100 by omega) hdigit,
    Stamp.number?_padded (show minute < 100 by omega) hdigit, Stamp.separator?_cons hcolon, hseconds,
    Stamp.fraction?_padded hms, Option.bind_eq_bind, Option.bind_some,
    if_pos (show hour < 24 ∧ minute < 60 ∧ second ≤ 60 by omega),
    if_neg (show ¬ second = 60 by omega), Nat.sub_zero, Int.natCast_zero, Int.zero_mul, Int.zero_add]

end

/-! ## Timestamps -/

theorem Stamp.isSome_text? {t : Int} : (Stamp.text? t).isSome = Instant.isRepresentable t := by
  unfold Stamp.text?
  cases Instant.isRepresentable t <;> rfl

/-- The day, the hour, the minute and the second of an instant add up to its full seconds. -/
theorem Instant.whole_seconds (t : Int) :
    Instant.ofDayNumber (Instant.dayNumber t) +
      (((t / Instant.msPerHour % 24).toNat * 60 + (t / Instant.msPerMinute % 60).toNat : Int) * 60 +
        (t / 1000 % 60).toNat) * 1000 = t - t % 1000 := by
  simp only [Instant.ofDayNumber, Instant.dayNumber, Instant.msPerDay, Instant.msPerHour,
    Instant.msPerMinute]
  omega

theorem Instant.dayNumber_whole_seconds (t : Int) :
    Instant.dayNumber (t - t % 1000) = Instant.dayNumber t := by
  simp only [Instant.dayNumber, Instant.msPerDay]
  omega

/-- **What is written for an instant is read as that instant.** -/
theorem Stamp.parse?_text? {t : Int} {s : String} (h : Stamp.text? t = some s) :
    Stamp.parse? s = some t := by
  have ht : Instant.isRepresentable t = true := by
    rw [← Stamp.isSome_text?, h]
    rfl
  have hdate : (Instant.date t).dayNumber = Instant.dayNumber t := Date.dayNumber_ofDayNumber _
  have hday : Date.hasDay (Instant.date t).dayNumber = true := by
    rw [hdate]
    exact ht
  have hvalid : (Instant.date t).isValid = true := Date.isValid_ofDayNumber _
  simp only [Stamp.text?, ht, Bool.not_true, Bool.false_eq_true, if_false, Option.some.injEq] at h
  subst h
  simp only [Stamp.parse?, String.toList_ofList, List.append_assoc, List.cons_append,
    Stamp.date?_text hvalid hday, Option.bind_eq_bind, Option.bind_some]
  rw [Stamp.time?_text (by simp only [Instant.msPerHour]; omega)
    (by simp only [Instant.msPerMinute]; omega) (by omega) (by omega)]
  have hoffset : Stamp.offset? (Text.trimLeft ['Z']) = some (0, []) := by decide
  have hend : (Text.trimLeft []).isEmpty = true := by decide
  simp only [Option.bind_some, hoffset, hend, Bool.true_and, hdate, Int.zero_mul, Int.sub_zero,
    Instant.whole_seconds]
  have hwhole : Instant.isRepresentable (t - t % 1000) = true := by
    rw [Instant.isRepresentable, Instant.dayNumber_whole_seconds]
    exact ht
  rw [if_pos hwhole, Int.toNat_of_nonneg (by omega), Int.sub_add_cancel]

example : Stamp.text? 253402300800001 = some "+10000-01-01T00:00:00.001Z" := by decide

theorem Stamp.map_filterMap_text? : ∀ {ts : List Int},
    (∀ t ∈ ts, Instant.isRepresentable t = true) →
      (ts.filterMap Stamp.text?).map some = ts.map Stamp.text? ∧
      (ts.filterMap Stamp.text?).map Stamp.parse? = ts.map some
  | [], _ => ⟨rfl, rfl⟩
  | t :: ts, h => by
    obtain ⟨ht, hts⟩ := List.forall_mem_cons.1 h
    obtain ⟨htexts, hread⟩ := Stamp.map_filterMap_text? hts
    obtain ⟨s, hs⟩ := Option.isSome_iff_exists.1 (Stamp.isSome_text?.trans ht)
    rw [List.filterMap_cons_some hs, List.map_cons, List.map_cons, List.map_cons, List.map_cons,
      htexts, hread, hs, Stamp.parse?_text? hs]
    exact ⟨rfl, rfl⟩

end Booking
