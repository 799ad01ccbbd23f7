import Booking.Proofs.Recurrence.Alternatives
import Booking.Proofs.Recurrence.Progression
import Booking.Proofs.Time.Days
/-!
# Whole ranges

The range of all values that a field may name accepts what the dimension admits. Instants show such
values only, except that weekdays are counted from 1 and not from 0: a Saturday shows 7, which no field
names, and 0 is shown by no day. So a star may be replaced by the whole range, unless it stands for the
weekdays, where the Saturdays are lost (`Pattern.accepts_whole_ranges`).
-/
namespace Booking

/-- The range of all values that a field may name. -/
def Dimension.whole (d : Dimension) : Field := .range d.least d.greatest 1

/-- Whether the day of the instant is a Saturday. -/
def Instant.isSaturday (t : Int) : Bool := Date.weekday (Instant.dayNumber t) == 6

/-! ## What instants show -/

theorem Dimension.admits_iff {d : Dimension} {n : Nat} :
    d.admits n = true ↔ d.least ≤ n ∧ n ≤ d.greatest := by
  rw [Dimension.admits, Bool.and_eq_true, decide_eq_true_eq, decide_eq_true_eq]

theorem Dimension.accepts_whole (d : Dimension) (v : Nat) : d.whole.accepts v = d.admits v := by
  have hle : d.least ≤ d.greatest := by cases d <;> decide
  simp [Dimension.whole, Field.accepts, Dimension.admits, hle]

section

variable {t : Int} {s : Sample} {d : Dimension}

/-- **Minutes, hours, days and months are within the bounds of their fields.** -/
theorem Sample.admits_value (hs : Sample.ofInstant? t = some s) (hd : d ≠ .dayOfWeek) :
    d.admits (s.value d) = true := by
  have ht : Instant.isRepresentable t = true := by rw [← Sample.ofInstant?_isSome, hs]; rfl
  obtain ⟨s', hs', hminute, hhour, -, hmonth, hday⟩ := Sample.exists_ofInstant? ht
  obtain rfl : s = s' := Option.some.inj (hs.symm.trans hs')
  obtain ⟨hfirst, hlast, hpos, hle⟩ :=
    Date.isValid_iff.1 (Date.isValid_ofDayNumber (t / 86400000))
  have hlong := Nat.le_trans hle (Date.monthLength_le _ _)
  rw [Dimension.admits_iff]
  cases d <;> simp only [Sample.value, Dimension.least, Dimension.greatest]
  case minute => omega
  case hour => omega
  case dayOfMonth => rw [hday]; exact ⟨hpos, hlong⟩
  case month => rw [hmonth]; exact ⟨hfirst, hlast⟩
  case dayOfWeek => exact absurd rfl hd

/-- A weekday is shown by one more than its number, so Sunday is 1 and Saturday 7. -/
theorem Sample.value_weekday (hs : Sample.ofInstant? t = some s) :
    1 ≤ s.value .dayOfWeek ∧ s.value .dayOfWeek ≤ 7 ∧
      (s.value .dayOfWeek = 7 ↔ Instant.isSaturday t = true) := by
  have hweekday : s.weekday = Date.weekday (Instant.dayNumber t) := by
    simp only [Sample.ofInstant?, Option.ite_none_right_eq_some, Option.some.injEq] at hs
    rw [← hs.2]
  have hlt : Date.weekday (Instant.dayNumber t) < 7 := by
    unfold Date.weekday
    omega
  simp only [Sample.value, hweekday, Instant.isSaturday, beq_iff_eq]
  omega

/-- **Of the weekdays only Saturday is out of the bounds of its fields.** -/
theorem Sample.admits_weekday (hs : Sample.ofInstant? t = some s) :
    Dimension.dayOfWeek.admits (s.value .dayOfWeek) = !Instant.isSaturday t := by
  obtain ⟨-, hle, hsaturday⟩ := Sample.value_weekday hs
  rw [Bool.eq_iff_iff, Bool.not_eq_true', Bool.eq_false_iff, ne_eq, ← hsaturday,
    Dimension.admits_iff]
  simp only [Dimension.least, Dimension.greatest]
  omega

end

/-! ## Patterns with another list -/

section

variable {p : Pattern} {d : Dimension} {t : Int}

/-- If the fields of a new list accept what those of the old one do, but under a condition only, so does
the pattern. -/
theorem Pattern.accepts_withFields_and {fs : List Field} (condition : Bool)
    (h : ∀ s, Sample.ofInstant? t = some s →
      ((∃ f ∈ fs, f.accepts (s.value d) = true) ↔
        (∃ f ∈ p.fields d, f.accepts (s.value d) = true) ∧ condition = true)) :
    (p.withFields d fs).accepts t = (p.accepts t && condition) := by
  have hself : p.accepts t = (p.withFields d (p.fields d)).accepts t := by
    rw [Pattern.withFields_fields]
  rw [hself, Bool.eq_iff_iff, Bool.and_eq_true, Pattern.accepts_withFields_iff,
    Pattern.accepts_withFields_iff]
  constructor
  · rintro ⟨s, hs, hfields, hothers⟩
    obtain ⟨hold, hcondition⟩ := (h s hs).1 hfields
    exact ⟨⟨s, hs, hold, hothers⟩, hcondition⟩
  · rintro ⟨⟨s, hs, hold, hothers⟩, hcondition⟩
    exact ⟨s, hs, (h s hs).2 ⟨hold, hcondition⟩, hothers⟩

/-- With the whole range for a star a pattern accepts the instants that show an admitted value. -/
theorem Pattern.accepts_withFields_whole {condition : Bool} (hany : p.fields d = [.any])
    (h : ∀ s, Sample.ofInstant? t = some s → d.admits (s.value d) = condition) :
    (p.withFields d [d.whole]).accepts t = (p.accepts t && condition) := by
  refine Pattern.accepts_withFields_and condition fun s hs => ?_
  have hstar : Field.any.accepts (s.value d) = true := rfl
  simp [hany, Dimension.accepts_whole, h s hs, hstar]

/-- A field 0 for the weekdays stands for no day. -/
theorem Pattern.accepts_withFields_zero {pre post : List Field}
    (hfields : p.daysOfWeek = pre ++ post) :
    (p.withFields .dayOfWeek (pre ++ .range 0 0 1 :: post)).accepts t = p.accepts t := by
  rw [Pattern.accepts_withFields_and true, Bool.and_true]
  intro s hs
  have hzero : (Field.range 0 0 1).accepts (s.value .dayOfWeek) = false := by
    have hpos := (Sample.value_weekday hs).1
    rw [Bool.eq_false_iff, ne_eq, Field.accepts_range_iff, if_pos (Nat.le_refl 0)]
    omega
  rw [show p.fields .dayOfWeek = pre ++ post from hfields]
  simp only [List.mem_append, List.mem_cons, or_and_right, exists_or, exists_eq_left, hzero,
    Bool.false_eq_true, false_or, and_true]

/-- **Plain ranges of weekdays never accept a Saturday.** -/
theorem Pattern.accepts_saturday (hp : p.IsProper) (hany : Field.any ∉ p.daysOfWeek)
    (hplain : ∀ first last step, Field.range first last step ∈ p.daysOfWeek → first ≤ last)
    (ht : Instant.isSaturday t = true) : p.accepts t = false := by
  rw [Bool.eq_false_iff, ne_eq, Pattern.accepts_iff]
  rintro ⟨s, hs, h⟩
  obtain ⟨f, hf, haccepts⟩ := h .dayOfWeek
  have hseven := (Sample.value_weekday hs).2.2.2 ht
  cases f with
  | any => exact hany hf
  | range first last step =>
    have hle := hplain first last step hf
    obtain ⟨-, hlast, -⟩ := (hp .dayOfWeek).2 _ hf
    have hsix : last ≤ 6 := (Dimension.admits_iff.1 hlast).2
    rw [Field.accepts_range_iff, if_pos hle, hseven] at haccepts
    omega

/-! ## Their texts -/

/-- The canonical texts of the five lists. -/
def Pattern.texts (p : Pattern) (d : Dimension) : String := String.ofList (Field.listText (p.fields d))

theorem Pattern.canonical_eq_spell (p : Pattern) : p.canonical = Pattern.spell p.texts := by
  rw [← String.toList_inj, Pattern.spell, String.toList_intercalate, List.map_map, Pattern.canonical,
    String.toList_ofList, Pattern.text]
  simp only [Function.comp_def, Pattern.texts, String.toList_ofList]
  rfl

/-- **With the text of another list the canonical text is read as the pattern with that list.** -/
theorem Pattern.IsParsed.parse_update {fs : List Field} {cs : List Char} (hp : p.IsParsed)
    (h : Field.parseList d cs = .ok fs) :
    Pattern.parse (Pattern.spell (Function.update p.texts d (String.ofList cs))) =
      .ok (p.withFields d fs) := by
  obtain ⟨s, hs⟩ := hp
  have hlists := (Pattern.parse_eq_ok_iff_written.1 hs).listWritten
  have hblank : Pattern.Blankless (Function.update p.texts d (String.ofList cs)) := by
    rw [Pattern.Blankless,
      Function.forall_update_iff p.texts fun _ s => ∀ c ∈ s.toList, Text.isBlank c = false]
    simp only [Pattern.texts, String.toList_ofList]
    exact ⟨(Field.parseList_eq_ok_iff.1 h).isBlank_eq_false, fun d' _ => (hlists d').isBlank_eq_false⟩
  rw [Pattern.parse_spell_update_iff_withFields hblank]
  simp only [Pattern.texts, String.toList_ofList]
  exact ⟨h, fun d' _ => Field.parseList_eq_ok_iff.2 (hlists d')⟩

/-- The alternative `0` is read anywhere in the list of weekdays. -/
theorem Pattern.IsParsed.parseList_zero {pre post : List Field} (hp : p.IsParsed)
    (hfields : p.daysOfWeek = pre ++ post) :
    let fs := pre ++ .range 0 0 1 :: post
    Field.parseList .dayOfWeek (Field.listText fs) = .ok fs := by
  obtain ⟨s, hs⟩ := hp
  have hold : ∀ f ∈ pre ++ post, Field.Written .dayOfWeek f.text f := by
    rw [← hfields]
    exact ((Pattern.parse_eq_ok_iff_written.1 hs).listWritten .dayOfWeek).written_text
  have hzero : Field.Written .dayOfWeek (Field.text (.range 0 0 1)) (.range 0 0 1) :=
    Field.written_text ⟨by decide, by decide, Nat.le_refl 1, fun _ => rfl⟩
      (by decide : 1 < Field.numberBound)
  rw [List.forall_mem_append] at hold
  refine Field.parseList_eq_ok_iff.2 (Field.listWritten_listText
    (List.append_ne_nil_of_right_ne_nil _ (List.cons_ne_nil _ _)) ?_)
  rw [List.forall_mem_append, List.forall_mem_cons]
  exact ⟨hold.1, hzero, hold.2⟩

end

theorem Field.parseList_whole (d : Dimension) :
    Field.parseList d (Dimension.entries "0-59" "0-23" "1-31" "1-12" "0-6" d).toList =
      .ok [d.whole] := by
  cases d <;> rfl

/-- **The whole range for a star.** If a list of a pattern that is read from a text is a star, then the
text with the whole range of the dimension for it is read too, and accepts the same instants; for the
weekdays those among them that are no Saturdays. More generally a pattern whose weekdays have neither a
star nor a wraparound range accepts no Saturday. The alternative `0` may be put anywhere into the list
of weekdays, and no more and no fewer instants are accepted. -/
theorem Pattern.accepts_whole_ranges (p : Pattern) (hp : p.IsParsed) (t : Int) :
    let ranges := Dimension.entries "0-59" "0-23" "1-31" "1-12" "0-6"
    p.canonical = Pattern.spell p.texts ∧
    (∀ d, p.fields d = [.any] →
      let q := p.withFields d [.range d.least d.greatest 1]
      p.texts d = "*" ∧
      Pattern.parse (Pattern.spell (Function.update p.texts d (ranges d))) = .ok q ∧
      q.accepts t =
        if d = .dayOfWeek then p.accepts t && !Instant.isSaturday t else p.accepts t) ∧
    (Field.any ∉ p.daysOfWeek →
      (∀ first last step, Field.range first last step ∈ p.daysOfWeek → first ≤ last) →
      Instant.isSaturday t = true → p.accepts t = false) ∧
    ∀ pre post, p.daysOfWeek = pre ++ post →
      let fs := pre ++ .range 0 0 1 :: post
      let q := p.withFields .dayOfWeek fs
      Field.text (.range 0 0 1) = ['0'] ∧
      Pattern.parse (Pattern.spell
        (Function.update p.texts .dayOfWeek (String.ofList (Field.listText fs)))) = .ok q ∧
      q.accepts t = p.accepts t := by
  intro ranges
  refine ⟨p.canonical_eq_spell, fun d hany => ⟨?_, ?_, ?_⟩, ?_, fun pre post hfields => ⟨rfl, ?_,
    Pattern.accepts_withFields_zero hfields⟩⟩
  · rw [Pattern.texts, hany]
    rfl
  · rw [← String.ofList_toList (s := ranges d)]
    exact hp.parse_update (Field.parseList_whole d)
  · split
    · rename_i hd
      subst hd
      exact Pattern.accepts_withFields_whole hany fun s hs => Sample.admits_weekday hs
    · rename_i hd
      exact (Pattern.accepts_withFields_whole hany fun s hs => Sample.admits_value hs hd).trans
        (Bool.and_true _)
  · obtain ⟨s, hs⟩ := hp
    exact Pattern.accepts_saturday (Pattern.parse_eq_ok_iff_written.1 hs).isProper
  · exact hp.parse_update (hp.parseList_zero hfields)

/-- 2023-01-07 is a Saturday. Ten o'clock on it is accepted with a star, also if the whole range stands for
the minutes, and not with `0-6` for the weekdays, be it with the alternative `0` or without it. -/
theorem Pattern.accepts_whole_ranges_saturday :
    let t := 1673085600000
    let pattern (minutes weekdays : List Field) : Pattern :=
      ⟨minutes, [.range 10 10 1], [.any], [.any], weekdays⟩
    (Instant.date t = ⟨2023, 1, 7⟩ ∧ Instant.isSaturday t = true) ∧
    (Pattern.parse "* 10 * * *" = .ok (pattern [.any] [.any]) ∧
      (pattern [.any] [.any]).accepts t = true) ∧
    (Pattern.parse "0-59 10 * * *" = .ok (pattern [.range 0 59 1] [.any]) ∧
      (pattern [.range 0 59 1] [.any]).accepts t = true) ∧
    (Pattern.parse "* 10 * * 0-6" = .ok (pattern [.any] [.range 0 6 1]) ∧
      (pattern [.any] [.range 0 6 1]).accepts t = false) ∧
    Pattern.parse "* 10 * * 0-6,0" = .ok (pattern [.any] [.range 0 6 1, .range 0 0 1]) ∧
      (pattern [.any] [.range 0 6 1, .range 0 0 1]).accepts t = false := by
  intro t pattern
  have hsaturday : Instant.isSaturday t = true := by decide
  have hstar : Pattern.parse "* 10 * * *" = .ok (pattern [.any] [.any]) := by rfl
  have hrange : Pattern.parse "* 10 * * 0-6" = .ok (pattern [.any] [.range 0 6 1]) := by rfl
  have haccepts : (pattern [.any] [.any]).accepts t = true := by decide
  obtain ⟨-, hwhole, -, -⟩ := Pattern.accepts_whole_ranges _ ⟨_, hstar⟩ t
  obtain ⟨-, -, hplain, hzero⟩ := Pattern.accepts_whole_ranges _ ⟨_, hrange⟩ t
  obtain ⟨-, hminutes, hminutes'⟩ := hwhole .minute rfl
  obtain ⟨-, hweekdays, hweekdays'⟩ := hwhole .dayOfWeek rfl
  obtain ⟨-, hadded, hadded'⟩ := hzero [.range 0 6 1] [] rfl
  have hnone : (pattern [.any] [.range 0 6 1]).accepts t = false := by
    refine hplain (by decide) (fun first last step h => ?_) hsaturday
    cases List.mem_singleton.1 h
    decide
  refine ⟨⟨by decide, hsaturday⟩, ⟨hstar, haccepts⟩, ⟨?_, hminutes'.trans haccepts⟩,
    ⟨?_, hnone⟩, ?_, hadded'.trans hnone⟩
  · exact (congrArg Pattern.parse (by decide)).trans hminutes
  · exact (congrArg Pattern.parse (by decide)).trans hweekdays
  · exact (congrArg Pattern.parse (by decide)).trans hadded

end Booking
