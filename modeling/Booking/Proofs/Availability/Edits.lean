import Booking.Availability.Basic
import Booking.Proofs.Recurrence.Canonical
/-!
# Editing an availability

The patterns of an availability are edited by texts: a text adds the pattern that it stands for, and
removes the first pattern with the same canonical text. As canonical texts tell such patterns apart
(`Pattern.IsParsed.canonical_inj`), this is a plain list from which the first equal element is erased
(`Availability.edits_keep_a_list`), however the texts were spelled.
-/
namespace Booking

/-- What can be done to an availability. -/
inductive Availability.Edit where
  | addText (text : String)
  /-- The pattern was read from some text before. -/
  | add (pattern : Pattern) (isParsed : pattern.IsParsed)
  | removeText (text : String)
  | setQuota (quota : Quota)

/-- The availability after an edit; it stays as it is if there is nothing to add or to remove. -/
def Availability.edit (a : Availability) : Availability.Edit → Availability
  | .addText s => (a.addText? s).getD a
  | .add p _ => a.add p
  | .removeText s => (a.removeText? s).getD a
  | .setQuota q => a.setQuota q

def Availability.editAll (a : Availability) (es : List Availability.Edit) : Availability :=
  es.foldl Availability.edit a

/-- What an edit by a text is answered with: whether a pattern was added or removed. -/
def Availability.reply? (a : Availability) : Availability.Edit → Option Bool
  | .addText s => some (a.addText? s).isSome
  | .removeText s => some (a.removeText? s).isSome
  | .add _ _ | .setQuota _ => none

namespace Availability.Edit

/-- The edit of a plain list: a pattern is added at its end, and the first equal one is erased. -/
def onList (ps : List Pattern) : Availability.Edit → List Pattern
  | .addText s =>
    match Pattern.parse s with
    | .ok p => ps ++ [p]
    | .error _ => ps
  | .add p _ => ps ++ [p]
  | .removeText s =>
    match Pattern.parse s with
    | .ok p => ps.erase p
    | .error _ => ps
  | .setQuota _ => ps

/-- The quota that was set last. -/
def onQuota (q : Quota) : Availability.Edit → Quota
  | .setQuota q' => q'
  | .addText _ | .add _ _ | .removeText _ => q

end Availability.Edit

/-! ## One edit -/

section

variable {a : Availability} {s : String} {p : Pattern}

/-- The texts of patterns are equal if the patterns are. -/
theorem Pattern.IsParsed.text_beq {q : Pattern} (hq : q.IsParsed) (hp : p.IsParsed) :
    (q.text == p.text) = (q == p) := by
  rw [Bool.eq_iff_iff, beq_iff_eq, beq_iff_eq, ← hq.canonical_inj hp]
  exact String.ofList_inj.symm

theorem eraseP_congr {α : Type} {f g : α → Bool} : ∀ {l : List α}, (∀ x ∈ l, f x = g x) →
    l.eraseP f = l.eraseP g
  | [], _ => rfl
  | x :: l, h => by
    obtain ⟨hx, hl⟩ := List.forall_mem_cons.1 h
    rw [List.eraseP_cons, List.eraseP_cons, hx, eraseP_congr hl]

theorem Availability.addText?_of_ok (h : Pattern.parse s = .ok p) :
    a.addText? s = some (a.add p) := by
  rw [Availability.addText?, h]

theorem Availability.addText?_of_error {e : PatternError} (h : Pattern.parse s = .error e) :
    a.addText? s = none := by
  rw [Availability.addText?, h]

theorem Availability.removeText?_of_error {e : PatternError} (h : Pattern.parse s = .error e) :
    a.removeText? s = none := by
  rw [Availability.removeText?, h]

/-- **The text removes the first pattern that equals the one it stands for**, if there is one. -/
theorem Availability.removeText?_of_ok (ha : ∀ q ∈ a.patterns, q.IsParsed)
    (h : Pattern.parse s = .ok p) :
    a.removeText? s =
      if p ∈ a.patterns then some { a with patterns := a.patterns.erase p } else none := by
  have hequal : ∀ q ∈ a.patterns, (q.text == p.text) = (q == p) :=
    fun q hq => (ha q hq).text_beq ⟨s, h⟩
  have hany : a.patterns.any (fun q => q.text == p.text) = true ↔ p ∈ a.patterns := by
    rw [List.any_eq_true]
    constructor
    · rintro ⟨q, hq, htext⟩
      rw [hequal q hq, beq_iff_eq] at htext
      rwa [← htext]
    · intro hp
      exact ⟨p, hp, beq_self_eq_true p.text⟩
  rw [Availability.removeText?, h]
  simp only [hany, eraseP_congr hequal, List.erase_eq_eraseP']

/-- **One edit does to the patterns what it does to a plain list**, and they remain patterns that come
from texts. -/
theorem Availability.edit_spec (ha : ∀ q ∈ a.patterns, q.IsParsed) (e : Availability.Edit) :
    (a.edit e).patterns = e.onList a.patterns ∧ (a.edit e).quota = e.onQuota a.quota ∧
      ∀ q ∈ (a.edit e).patterns, q.IsParsed := by
  have hadd : ∀ p : Pattern, p.IsParsed → ∀ q ∈ a.patterns ++ [p], q.IsParsed := by
    intro p hp q hq
    rcases List.mem_append.1 hq with hq | hq
    · exact ha q hq
    · rwa [List.mem_singleton.1 hq]
  cases e with
  | addText s =>
    rw [Availability.edit, Availability.Edit.onList]
    cases h : Pattern.parse s with
    | error e =>
      rw [Availability.addText?_of_error h]
      exact ⟨rfl, rfl, ha⟩
    | ok p =>
      rw [Availability.addText?_of_ok h]
      exact ⟨rfl, rfl, hadd p ⟨s, h⟩⟩
  | add p hp => exact ⟨rfl, rfl, hadd p hp⟩
  | removeText s =>
    rw [Availability.edit, Availability.Edit.onList]
    cases h : Pattern.parse s with
    | error e =>
      rw [Availability.removeText?_of_error h]
      exact ⟨rfl, rfl, ha⟩
    | ok p =>
      rw [Availability.removeText?_of_ok ha h]
      by_cases hp : p ∈ a.patterns
      · rw [if_pos hp]
        exact ⟨rfl, rfl, fun q hq => ha q (List.mem_of_mem_erase hq)⟩
      · rw [if_neg hp]
        exact ⟨(List.erase_of_not_mem hp).symm, rfl, ha⟩
  | setQuota q => exact ⟨rfl, rfl, ha⟩

/-- A text that stands for no pattern changes nothing. -/
theorem Availability.edit_of_error {error : PatternError} (h : Pattern.parse s = .error error) :
    a.edit (.addText s) = a ∧ a.edit (.removeText s) = a := by
  rw [Availability.edit, Availability.addText?_of_error h, Availability.edit,
    Availability.removeText?_of_error h]
  exact ⟨rfl, rfl⟩

/-- A pattern that is not there is not removed. -/
theorem Availability.edit_of_notMem (ha : ∀ q ∈ a.patterns, q.IsParsed)
    (h : Pattern.parse s = .ok p) (hp : p ∉ a.patterns) : a.edit (.removeText s) = a := by
  rw [Availability.edit, Availability.removeText?_of_ok ha h, if_neg hp]
  rfl

/-- **The answer to a text says whether the patterns change.** -/
theorem Availability.reply?_eq (ha : ∀ q ∈ a.patterns, q.IsParsed) (s : String) :
    ∀ e ∈ [Availability.Edit.addText s, .removeText s],
      a.reply? e = some (decide ((a.edit e).patterns ≠ a.patterns)) := by
  have hchanged : ∀ {ps : List Pattern}, ps.length ≠ a.patterns.length →
      some true = some (decide (ps ≠ a.patterns)) := by
    intro ps hlength
    rw [decide_eq_true (ne_of_apply_ne List.length hlength)]
  have hkept : some false = some (decide (a.patterns ≠ a.patterns)) := by
    rw [decide_eq_false (not_not_intro rfl)]
  refine List.forall_mem_cons.2 ⟨?_, List.forall_mem_singleton.2 ?_⟩
  · rw [Availability.reply?, Availability.edit]
    cases h : Pattern.parse s with
    | error e =>
      rw [Availability.addText?_of_error h]
      exact hkept
    | ok p =>
      rw [Availability.addText?_of_ok h]
      exact hchanged (by simp [Availability.add])
  · rw [Availability.reply?, Availability.edit]
    cases h : Pattern.parse s with
    | error e =>
      rw [Availability.removeText?_of_error h]
      exact hkept
    | ok p =>
      rw [Availability.removeText?_of_ok ha h]
      by_cases hp : p ∈ a.patterns
      · rw [if_pos hp]
        have hpos : 0 < a.patterns.length := List.length_pos_of_mem hp
        have hlength : (a.patterns.erase p).length ≠ a.patterns.length := by
          rw [List.length_erase_of_mem hp]
          omega
        exact hchanged hlength
      · rw [if_neg hp]
        exact hkept

end

/-! ## Any number of edits -/

theorem Availability.editAll_spec : ∀ (es : List Availability.Edit) {a : Availability},
    (∀ q ∈ a.patterns, q.IsParsed) →
      (a.editAll es).patterns = es.foldl Availability.Edit.onList a.patterns ∧
      (a.editAll es).quota = es.foldl Availability.Edit.onQuota a.quota ∧
      ∀ q ∈ (a.editAll es).patterns, q.IsParsed
  | [], _, ha => ⟨rfl, rfl, ha⟩
  | e :: es, a, ha => by
    obtain ⟨hpatterns, hquota, hedited⟩ := Availability.edit_spec ha e
    rw [List.foldl_cons, List.foldl_cons, ← hpatterns, ← hquota]
    exact Availability.editAll_spec es hedited

/-- **Whatever is done to an availability, its patterns are a plain list** to whose end patterns are added
and from which the first equal one is erased, and its quota is the one that was set last. The answer to the
next text says whether it changes the patterns. A text that stands for no pattern changes nothing at all,
and neither does the removal of a pattern that is not there: among patterns that come from texts, those
with equal canonical texts are equal. -/
theorem Availability.edits_keep_a_list (quota : Quota) (es : List Availability.Edit) :
    let a := (Availability.ofQuota quota).editAll es
    (a.patterns = es.foldl Availability.Edit.onList [] ∧
      a.quota = es.foldl Availability.Edit.onQuota quota) ∧
    (∀ s, ∀ e ∈ [Availability.Edit.addText s, .removeText s],
      a.reply? e = some (decide ((a.edit e).patterns ≠ a.patterns))) ∧
    (∀ s error, Pattern.parse s = .error error →
      a.edit (.addText s) = a ∧ a.edit (.removeText s) = a) ∧
    (∀ s p, Pattern.parse s = .ok p → p ∉ a.patterns → a.edit (.removeText s) = a) ∧
    ∀ p q : Pattern, p.IsParsed → q.IsParsed → (p.canonical = q.canonical ↔ p = q) := by
  intro a
  obtain ⟨hpatterns, hquota, ha⟩ :=
    Availability.editAll_spec es (a := .ofQuota quota) (by simp [Availability.ofQuota])
  exact ⟨⟨hpatterns, hquota⟩, Availability.reply?_eq ha, fun s error => Availability.edit_of_error,
    fun s p => Availability.edit_of_notMem ha, fun p q hp hq => hp.canonical_inj hq⟩

/-- Nine o'clock is added in two spellings, with every quarter of an hour in between; a third spelling
removes the first of the two. Eight o'clock was never added, and four words are no pattern. -/
theorem Availability.edits_keep_a_list_threeSpellings :
    let quarters : Pattern := ⟨[.range 0 59 15], [.any], [.any], [.any], [.any]⟩
    let nine : Pattern := ⟨[.range 0 0 1], [.range 9 9 1], [.any], [.any], [.any]⟩
    let eight : Pattern := ⟨[.range 0 0 1], [.range 8 8 1], [.any], [.any], [.any]⟩
    let es := [Availability.Edit.addText "0 9 * * *", .addText "/15 * * * *",
      .setQuota ⟨2, .week⟩, .addText "00 09-9/3 * * *"]
    let a := (Availability.ofQuota ⟨1, .day⟩).editAll es
    (a.patterns = [nine, quarters, nine] ∧ a.quota = ⟨2, .week⟩) ∧
    (a.reply? (.removeText "0-0 9 * * *") = some true ∧
      (a.edit (.removeText "0-0 9 * * *")).patterns = [quarters, nine]) ∧
    (Pattern.parse "0 9 * *" = .error (.fieldCount 4) ∧ a.edit (.removeText "0 9 * *") = a) ∧
    (Pattern.parse "0 8 * * *" = .ok eight ∧ eight ∉ a.patterns ∧
      a.edit (.removeText "0 8 * * *") = a) ∧
    nine.IsParsed ∧ eight.IsParsed ∧ nine.canonical ≠ eight.canonical := by
  intro quarters nine eight es a
  obtain ⟨⟨hpatterns, hquota⟩, hreply, herror, habsent, htexts⟩ :=
    Availability.edits_keep_a_list ⟨1, .day⟩ es
  have hlist : a.patterns = [nine, quarters, nine] := hpatterns
  have hremoved : (a.edit (.removeText "0-0 9 * * *")).patterns = [quarters, nine] := by decide
  have hwords : Pattern.parse "0 9 * *" = .error (.fieldCount 4) := by rfl
  have height : Pattern.parse "0 8 * * *" = .ok eight := by rfl
  have hnine : Pattern.parse "0 9 * * *" = .ok nine := by rfl
  have hmem : eight ∉ a.patterns := by
    rw [hlist]
    decide
  refine ⟨⟨hlist, hquota⟩, ⟨?_, hremoved⟩, ⟨hwords, (herror _ _ hwords).2⟩,
    ⟨height, hmem, habsent _ _ height hmem⟩, ⟨_, hnine⟩, ⟨_, height⟩, ?_⟩
  · rw [hreply "0-0 9 * * *" (.removeText "0-0 9 * * *") (by simp), hremoved, hlist]
    decide
  · rw [ne_eq, htexts nine eight ⟨_, hnine⟩ ⟨_, height⟩]
    decide

end Booking
