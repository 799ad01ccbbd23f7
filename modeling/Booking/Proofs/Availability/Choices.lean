import Booking.Proofs.Command.Slots
import Booking.Proofs.Recurrence.Alternatives
/-!
# Availability by choices

A comma in the text of a pattern says no more than two patterns do: a resource that holds the choices of
a pattern, each with one alternative for every dimension, is available at the same instants as one that
holds the pattern, so that its slots are the same too (`Availability.comma_is_union`). Ranges are
another matter, since their two ends may need different alternatives.
-/
namespace Booking

section

variable {a : Availability} {s : String} {p : Pattern} {t : Int}

theorem Availability.isAvailable_add :
    (a.add p).isAvailable t = (a.isAvailable t || p.accepts t) := by
  simp [Availability.isAvailable, Availability.add]

/-- **The choices of a pattern make the same instants available as the pattern.** -/
theorem Availability.isAvailable_addTexts_choices (a : Availability) (h : Pattern.parse s = .ok p) :
    (a.addTexts (Pattern.choices s)).isAvailable = (a.add p).isAvailable := by
  funext t
  rw [Bool.eq_iff_iff, Availability.isAvailable_addTexts_iff, ← Pattern.accepts_iff_choices h,
    Availability.isAvailable_add, Bool.or_eq_true]

end

/-- **A comma is a union.** Five texts without blanks, one of them with a comma in it, are a pattern if
they are one with either side of the comma instead of both, and then the pattern accepts what one of
these two accepts. Either side may be empty or have more commas. So a pattern may be replaced by its
choices: these are the patterns that have one of its alternatives for each dimension, and whatever an
availability holds besides, it has the same instants and the same slots with them as with the pattern. -/
theorem Availability.comma_is_union :
    (∀ (f : Dimension → String) (d : Dimension) (a b : String),
      (∀ d, ∀ c ∈ (f d).toList, Text.isBlank c = false) → f d = a ++ "," ++ b →
        let left := Pattern.spell (Function.update f d a)
        let right := Pattern.spell (Function.update f d b)
        ((∃ p, Pattern.parse (Pattern.spell f) = .ok p) ↔
          (∃ p, Pattern.parse left = .ok p) ∧ ∃ p, Pattern.parse right = .ok p) ∧
        ∀ p pa pb, Pattern.parse (Pattern.spell f) = .ok p → Pattern.parse left = .ok pa →
          Pattern.parse right = .ok pb → ∀ t, p.accepts t = (pa.accepts t || pb.accepts t)) ∧
    ∀ s p, Pattern.parse s = .ok p →
      ((∀ s' ∈ Pattern.choices s, ∃ q, Pattern.parse s' = .ok q) ∧
        ∀ q, (∃ s' ∈ Pattern.choices s, Pattern.parse s' = .ok q) ↔
          ∃ f : Dimension → Field, (∀ d, f d ∈ p.fields d) ∧ q = .ofFields fun d => [f d]) ∧
      ∀ a : Availability,
        let chosen := a.addTexts (Pattern.choices s)
        (∀ t, chosen.isAvailable t = (a.add p).isAvailable t) ∧
        (∀ start stop minutes limit,
          chosen.slots start stop minutes limit = (a.add p).slots start stop minutes limit) ∧
        ∀ start stop minutes ts,
          (Walk.ofMinutes start stop minutes).Yields chosen.isAvailable ts ↔
            (Walk.ofMinutes start stop minutes).Yields (a.add p).isAvailable ts := by
  refine ⟨fun f d a b hf hcomma => ⟨Pattern.exists_parse_spell_comma_iff hf hcomma, ?_⟩,
    fun s p h => ⟨Pattern.parse_choices h, fun a => ?_⟩⟩
  · intro p pa pb hp hpa hpb t
    obtain ⟨fa, fb, hfields, ha, hb⟩ := (Pattern.parse_spell_comma_iff hf hcomma).1 hp
    obtain rfl : p.withFields d fa = pa := Except.ok.inj (ha.symm.trans hpa)
    obtain rfl : p.withFields d fb = pb := Except.ok.inj (hb.symm.trans hpb)
    rw [← Pattern.accepts_withFields_append, ← hfields, Pattern.withFields_fields]
  · have hsame := a.isAvailable_addTexts_choices h
    refine ⟨fun t => congrFun hsame t, fun start stop minutes limit => ?_,
      fun start stop minutes ts => ?_⟩
    · rw [Availability.slots, hsame, ← Availability.slots]
    · rw [hsame]

/-- More commas follow the first one, and the side before it has two choices. A comma with nothing behind it
leaves four words. -/
theorem Availability.comma_is_union_quarters :
    let f := Dimension.entries "0,30,45-50/5" "19-7" "*" "*" "2,6-1"
    let fields (minutes : List Field) : Pattern :=
      ⟨minutes, [.range 19 7 1], [.any], [.any], [.range 2 2 1, .range 6 1 1]⟩
    (∀ d, ∀ c ∈ (f d).toList, Text.isBlank c = false) ∧ f .minute = "0" ++ "," ++ "30,45-50/5" ∧
    (Pattern.parse (Pattern.spell f) =
        .ok (fields [.range 0 0 1, .range 30 30 1, .range 45 50 5]) ∧
      Pattern.parse (Pattern.spell (Function.update f .minute "0")) = .ok (fields [.range 0 0 1]) ∧
      Pattern.parse (Pattern.spell (Function.update f .minute "30,45-50/5")) =
        .ok (fields [.range 30 30 1, .range 45 50 5])) ∧
    (∀ t, (fields [.range 0 0 1, .range 30 30 1, .range 45 50 5]).accepts t =
      ((fields [.range 0 0 1]).accepts t || (fields [.range 30 30 1, .range 45 50 5]).accepts t)) ∧
    Pattern.choices "0 19-7 * * 2,6-1" = ["0 19-7 * * 2", "0 19-7 * * 6-1"] ∧
    (∀ (a : Availability) (t : Int),
      (a.addTexts ["0 19-7 * * 2", "0 19-7 * * 6-1"]).isAvailable t =
        (a.add (fields [.range 0 0 1])).isAvailable t) ∧
    ¬ ∃ p, Pattern.parse (Pattern.spell (Function.update f .minute "0,")) = .ok p := by
  intro f fields
  have hf : Pattern.Blankless f := by decide
  have hcomma : f .minute = "0" ++ "," ++ "30,45-50/5" := by decide
  have hwhole : Pattern.parse (Pattern.spell f) =
      .ok (fields [.range 0 0 1, .range 30 30 1, .range 45 50 5]) := by
    rw [show Pattern.spell f = "0,30,45-50/5 19-7 * * 2,6-1" by decide]
    rfl
  have hfirst : Pattern.parse "0 19-7 * * 2,6-1" = .ok (fields [.range 0 0 1]) := by rfl
  have hleft : Pattern.parse (Pattern.spell (Function.update f .minute "0")) =
      .ok (fields [.range 0 0 1]) := by
    rw [show Pattern.spell (Function.update f .minute "0") = "0 19-7 * * 2,6-1" by decide, hfirst]
  have hright : Pattern.parse (Pattern.spell (Function.update f .minute "30,45-50/5")) =
      .ok (fields [.range 30 30 1, .range 45 50 5]) := by
    rw [show Pattern.spell (Function.update f .minute "30,45-50/5") = "30,45-50/5 19-7 * * 2,6-1"
      by decide]
    rfl
  have hchoices : Pattern.choices "0 19-7 * * 2,6-1" = ["0 19-7 * * 2", "0 19-7 * * 6-1"] := by
    decide
  obtain ⟨hunion, hchosen⟩ := Availability.comma_is_union
  refine ⟨hf, hcomma, ⟨hwhole, hleft, hright⟩,
    (hunion f .minute _ _ hf hcomma).2 _ _ _ hwhole hleft hright, hchoices, fun a t => ?_, ?_⟩
  · rw [← hchoices]
    exact ((hchosen _ _ hfirst).2 a).1 t
  · have hempty : Pattern.Blankless (Function.update f .minute "0,") := by decide
    rw [(hunion (Function.update f .minute "0,") .minute "0" "" hempty (by decide)).1]
    rintro ⟨-, p, hp⟩
    rw [show Pattern.spell (Function.update (Function.update f .minute "0,") .minute "") =
      " 19-7 * * 2,6-1" by decide] at hp
    cases hp

end Booking
