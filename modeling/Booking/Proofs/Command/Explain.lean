import Booking.Command.Answer
import Booking.Proofs.Recurrence.Length
/-!
# Explaining a canonical text

`explain` answers a pattern with its canonical text. That text says the same as the one it was made of,
in every command that takes a pattern, as long as it is short enough for a request itself
(`Request.explain_canonical`). Steps without bounds are written out, so it need not be short enough
(`Request.exists_canonical_refused`).
-/
namespace Booking

/-- What is said of a text that is too long for a pattern. -/
def Request.tooLong : String := "pattern longer than 512 bytes"

section

variable {s : String} {p : Pattern}

theorem Request.pattern_eq_ok_iff :
    Request.pattern s = .ok p ↔ s.utf8ByteSize ≤ Pattern.maxLength ∧ Pattern.parse s = .ok p := by
  unfold Request.pattern
  by_cases h : Pattern.maxLength < s.utf8ByteSize
  · rw [if_pos h]
    simp [Nat.not_le.2 h]
  · rw [if_neg h]
    cases Pattern.parse s <;> simp [Except.mapError, Nat.not_lt.1 h]

theorem Request.pattern_of_long (h : Pattern.maxLength < s.utf8ByteSize) :
    Request.pattern s = .error Request.tooLong :=
  if_pos h

theorem Answer.ofPattern_eq_success {data : Pattern → Json} {v : Json}
    (h : Answer.ofPattern s data = .success v) : ∃ p, Request.pattern s = .ok p ∧ v = data p := by
  unfold Answer.ofPattern at h
  cases hs : Request.pattern s with
  | error message =>
    rw [hs] at h
    cases h
  | ok p =>
    rw [hs] at h
    cases h
    exact ⟨p, rfl, rfl⟩

theorem Answer.ofPattern_of_ok (h : Request.pattern s = .ok p) (data : Pattern → Json) :
    Answer.ofPattern s data = .success (data p) := by
  rw [Answer.ofPattern, h]

theorem Answer.ofPattern_of_long (h : Pattern.maxLength < s.utf8ByteSize) (data : Pattern → Json) :
    Answer.ofPattern s data = .failure Request.tooLong := by
  rw [Answer.ofPattern, Request.pattern_of_long h]

theorem Request.explain_canonical_of_long (w : Surroundings) (hs : Request.pattern s = .ok p)
    (h : Pattern.maxLength < p.canonical.utf8ByteSize) :
    (Request.explain s).answer w = .success
      (.object [("canonical", .string p.canonical), ("labelled", .string p.labelled)]) ∧
    (Request.explain p.canonical).answer w = .failure Request.tooLong :=
  ⟨Answer.ofPattern_of_ok hs Answer.explanation, Answer.ofPattern_of_long h Answer.explanation⟩

end

/-- **The canonical text of a request says the same as the text of the request**, if a request may be as
long: it is explained in the same way and accepts the same instants and ranges. A longer one is refused by
every command. It has no more bytes than the text of the request, and four for each slash in that text, so
it is never refused where these are 512 at most. -/
theorem Request.explain_canonical (w : Surroundings) (s : String) (data : Json)
    (h : (Request.explain s).answer w = .success data) :
    ∃ (p : Pattern) (canonical labelled : String),
      (s.utf8ByteSize ≤ 512 ∧ Pattern.parse s = .ok p) ∧
      data = .object [("canonical", .string canonical), ("labelled", .string labelled)] ∧
      (∀ t, (Request.accepts s t).answer w = .success (Answer.ofMatch (p.accepts t))) ∧
      (∀ start stop, (Request.acceptsRange s start stop).answer w =
        .success (Answer.ofMatch (p.acceptsRange start stop))) ∧
      canonical.utf8ByteSize ≤ s.utf8ByteSize + 4 * s.toList.count '/' ∧
      (canonical.utf8ByteSize ≤ 512 →
        (Request.explain canonical).answer w = .success data ∧
        (∀ t, (Request.accepts canonical t).answer w = (Request.accepts s t).answer w) ∧
        ∀ start stop, (Request.acceptsRange canonical start stop).answer w =
          (Request.acceptsRange s start stop).answer w) ∧
      (512 < canonical.utf8ByteSize →
        (Request.explain canonical).answer w = .failure Request.tooLong ∧
        (∀ t, (Request.accepts canonical t).answer w = .failure Request.tooLong) ∧
        ∀ start stop, (Request.acceptsRange canonical start stop).answer w =
          .failure Request.tooLong) := by
  obtain ⟨p, hs, rfl⟩ := Answer.ofPattern_eq_success h
  obtain ⟨hlength, hparse⟩ := Request.pattern_eq_ok_iff.1 hs
  refine ⟨p, p.canonical, p.labelled, ⟨hlength, hparse⟩, rfl, fun t => Answer.ofPattern_of_ok hs _,
    fun start stop => Answer.ofPattern_of_ok hs _, Pattern.utf8ByteSize_canonical_le hparse,
    fun hshort => ?_, fun hlong => ?_⟩
  · have hp : Pattern.IsParsed p := ⟨s, hparse⟩
    have hcanonical : Request.pattern p.canonical = .ok p :=
      Request.pattern_eq_ok_iff.2 ⟨hshort, hp.parse_eq_ok⟩
    have hsame (data : Pattern → Json) :
        Answer.ofPattern p.canonical data = Answer.ofPattern s data := by
      rw [Answer.ofPattern_of_ok hcanonical, Answer.ofPattern_of_ok hs]
    exact ⟨(hsame _).trans h, fun t => hsame _, fun start stop => hsame _⟩
  · have hrefused (data : Pattern → Json) :
        Answer.ofPattern p.canonical data = .failure Request.tooLong :=
      Answer.ofPattern_of_long hlong data
    exact ⟨hrefused _, fun t => hrefused _, fun start stop => hrefused _⟩

/-- Every quarter of an hour and every other day, in eight bytes more than the request had. -/
theorem Request.explain_canonical_quarters :
    let w : Surroundings := { now := 0, fresh := .ofNat }
    let data : Json := .object [("canonical", .string "0-59/15,5 * 1-31/2 * *"),
      ("labelled",
        .string "minutes: 0-59/15,5\nhours: *\ndays of the month: 1-31/2\nmonths: *\ndays of the week: *")]
    (Request.explain "/15,05 * /2 * *").answer w = .success data ∧
    (Request.explain "0-59/15,5 * 1-31/2 * *").answer w = .success data ∧
    (Request.accepts "0-59/15,5 * 1-31/2 * *" 300000).answer w = .success (Answer.ofMatch true) := by
  intro w data
  have h : (Request.explain "/15,05 * /2 * *").answer w = .success data := by rfl
  refine ⟨h, ?_⟩
  obtain ⟨p, canonical, labelled, ⟨-, hparse⟩, hdata, haccepts, -, -, hshort, -⟩ :=
    Request.explain_canonical w "/15,05 * /2 * *" data h
  simp only [data, Json.object.injEq, List.cons.injEq, Prod.mk.injEq, Json.string.injEq, true_and,
    and_true] at hdata
  obtain ⟨rfl, rfl⟩ := hdata
  have hread : Pattern.parse "/15,05 * /2 * *" =
      .ok ⟨[.range 0 59 15, .range 5 5 1], [.any], [.range 1 31 2], [.any], [.any]⟩ := by rfl
  obtain rfl := Except.ok.inj (hread.symm.trans hparse)
  obtain ⟨hexplain, hmatch, -⟩ := hshort (by decide)
  exact ⟨hexplain, (hmatch 300000).trans (haccepts 300000)⟩

/-- **A canonical text may be refused**: 73 steps of two minutes are written in 226 bytes and explained in
518. -/
theorem Request.exists_canonical_refused :
    let s := String.ofList ([','].intercalate (List.replicate 73 ['/', '2']) ++
      [' ', '*', ' ', '*', ' ', '*', ' ', '*'])
    ∃ canonical labelled, s.utf8ByteSize = 226 ∧ canonical.utf8ByteSize = 518 ∧ ∀ w,
      (Request.explain s).answer w = .success
        (.object [("canonical", .string canonical), ("labelled", .string labelled)]) ∧
      (Request.explain canonical).answer w = .failure "pattern longer than 512 bytes" := by
  intro s
  let p : Pattern := ⟨List.replicate 73 (.range 0 59 2), [.any], [.any], [.any], [.any]⟩
  have hnarrow : ([','].intercalate (List.replicate 73 ['/', '2']) ++
      [' ', '*', ' ', '*', ' ', '*', ' ', '*']).all (fun c => c.utf8Size == 1) = true := by
    decide +kernel
  have hlength : s.utf8ByteSize = 226 := by
    rw [Text.utf8ByteSize_of_narrow (fun c hc => eq_of_beq (List.all_eq_true.1 hnarrow c hc))]
    decide +kernel
  have hparse : Pattern.parse s = .ok p := by
    rw [Pattern.parse, String.toList_ofList]
    decide +kernel
  have hlong : p.canonical.utf8ByteSize = 518 := by
    rw [Pattern.utf8ByteSize_canonical]
    decide +kernel
  have hs : Request.pattern s = .ok p :=
    Request.pattern_eq_ok_iff.2 ⟨by rw [hlength]; decide, hparse⟩
  have hmore : Pattern.maxLength < p.canonical.utf8ByteSize := by
    rw [hlong]
    decide
  exact ⟨p.canonical, p.labelled, hlength, hlong,
    fun w => Request.explain_canonical_of_long w hs hmore⟩

end Booking
