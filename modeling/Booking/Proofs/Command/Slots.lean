import Booking.Command.Answer
import Booking.Proofs.Availability.Slots
import Booking.Proofs.Time.Stamp
import Mathlib.Data.List.Sort
/-!
# The slots of a window

`slots` lists the instants of a window, so many minutes apart, that a pattern of the request accepts. It
looks at a million instants at most and lists no more slots than the settings allow, and it says so
exactly if one of the two limits was passed (`Request.slots_lists_available`). What it leaves out never
lies in between: it lists the first slots there are, in their order.
-/
namespace Booking

/-! ## Texts of patterns -/

theorem Availability.patterns_addTexts : ∀ (texts : List String) (a : Availability),
    (a.addTexts texts).patterns =
      a.patterns ++ texts.filterMap (fun s => (Pattern.parse s).toOption)
  | [], a => (List.append_nil _).symm
  | s :: texts, a => by
    have hrest := Availability.patterns_addTexts texts ((a.addText? s).getD a)
    rw [Availability.addTexts, List.foldl_cons, ← Availability.addTexts, hrest,
      Availability.addText?]
    cases hparse : Pattern.parse s with
    | error e => simp [hparse, Except.toOption]
    | ok p => simp [hparse, Except.toOption, Availability.add]

section

variable {texts : List String} {q : Quota}

theorem Availability.isAvailable_addTexts_iff {a : Availability} {t : Int} :
    (a.addTexts texts).isAvailable t = true ↔
      a.isAvailable t = true ∨
        ∃ s ∈ texts, ∃ p, Pattern.parse s = .ok p ∧ p.accepts t = true := by
  have hsome (s : String) (p : Pattern) :
      (Pattern.parse s).toOption = some p ↔ Pattern.parse s = .ok p := by
    cases Pattern.parse s <;> simp [Except.toOption]
  simp only [Availability.isAvailable, Availability.patterns_addTexts, List.any_append,
    Bool.or_eq_true]
  refine or_congr_right ?_
  simp only [List.any_eq_true, List.mem_filterMap, hsome]
  constructor
  · rintro ⟨p, ⟨s, hs, hparse⟩, haccepts⟩
    exact ⟨s, hs, p, hparse, haccepts⟩
  · rintro ⟨s, hs, p, hparse, haccepts⟩
    exact ⟨p, ⟨s, hs, hparse⟩, haccepts⟩

theorem Availability.isAvailable_addTexts {t : Int} :
    ((Availability.ofQuota q).addTexts texts).isAvailable t = true ↔
      ∃ s ∈ texts, ∃ p, Pattern.parse s = .ok p ∧ p.accepts t = true := by
  rw [Availability.isAvailable_addTexts_iff]
  simp [Availability.isAvailable, Availability.ofQuota]

/-- Every text adds a pattern, but for those that are none. -/
theorem Availability.length_sub_addTexts :
    texts.length - ((Availability.ofQuota q).addTexts texts).patterns.length =
      texts.countP (fun s => (Pattern.parse s).toOption.isNone) := by
  have hsplit := List.length_eq_countP_add_countP
    (fun s => (Pattern.parse s).toOption.isSome) (l := texts)
  have hnone : texts.countP (fun s => ¬ (Pattern.parse s).toOption.isSome) =
      texts.countP (fun s => (Pattern.parse s).toOption.isNone) :=
    List.countP_congr fun s _ => by cases (Pattern.parse s).toOption <;> simp
  rw [Availability.patterns_addTexts, Availability.ofQuota, List.nil_append,
    List.length_filterMap_eq_countP]
  omega

end

/-! ## Lists of slots -/

/-- Of the members of a list, those among its first ones are those found by looking at the first ones. -/
theorem filter_mem_take {l : List Int} (h : l.Nodup) (test : Int → Bool) (n : Nat) :
    (l.filter test).filter (fun t => t ∈ l.take n) = (l.take n).filter test := by
  have hfirst : (l.take n).filter (fun t => decide (t ∈ l.take n) && test t) =
      (l.take n).filter test :=
    List.filter_congr fun t ht => by rw [decide_eq_true ht, Bool.true_and]
  have hlater : (l.drop n).filter (fun t => decide (t ∈ l.take n) && test t) = [] := by
    refine List.filter_eq_nil_iff.2 fun t ht => ?_
    rw [decide_eq_false (fun hmem => List.disjoint_take_drop h (Nat.le_refl n) hmem ht)]
    simp
  rw [List.filter_filter]
  conv => lhs; rw [← List.take_append_drop n l]
  rw [List.filter_append, List.take_append_drop, hfirst, hlater, List.append_nil]

section

variable {start stop : Int}

/-- **What is listed are the first available instants among the first million.** -/
theorem SlotList.ofWindow_eq (limit : Nat) (patterns : List String) (minutes : Nat)
    (hstart : 0 ≤ start) (hstop : stop ≤ Instant.greatest) :
    let instants := (Walk.ofMinutes start stop minutes).instants
    let found := (instants.take 1000000).filter
      ((Availability.ofQuota { count := 0 }).addTexts patterns).isAvailable
    SlotList.ofWindow limit patterns start stop minutes =
      { slots := found.take limit
        isTruncated := limit < found.length || 1000000 < instants.length
        skipped := patterns.countP (fun s => (Pattern.parse s).toOption.isNone) } := by
  intro instants found
  have hsteps : Walk.maxSteps = (1000000 : Nat) := rfl
  have hlimit : limit < (found.take (limit + 1)).length ↔ limit < found.length := by
    rw [List.length_take]
    omega
  have hslots : (found.take (limit + 1)).take limit = found.take limit := by
    rw [List.take_take, Nat.min_eq_left (Nat.le_succ limit)]
  simp only [SlotList.ofWindow, hsteps, Availability.slots, Walk.take_eq,
    Walk.instants_cutStop? hstart hstop, Walk.isSome_cutStop? hstart hstop,
    Availability.length_sub_addTexts, SlotList.mk.injEq, and_true]
  exact ⟨hslots, congrArg (· || _) (decide_eq_decide.2 hlimit)⟩

end

/-- **`slots` lists the first instants of the window that a pattern accepts.** The instants of the window
are those at full steps from its start and before its stop, none if the step is zero; available are those
that one of the texts, read as a pattern, accepts. Of the available ones among the first million, it lists
the first up to the limit, as timestamps that are read back as these instants. It says `truncated` if and
only if there are more of them or more than a million instants, so a list that is not truncated leaves
nothing out. Texts that are no patterns are counted and skipped. -/
theorem Request.slots_lists_available (w : Surroundings) (patterns : List String) (start stop : Int)
    (minutes : Nat) (hstart : Desk.earliest ≤ start) (hstop : stop ≤ Desk.latest)
    (hlength : ∀ s ∈ patterns, s.utf8ByteSize ≤ Pattern.maxLength) :
    ∃ instants available : List Int,
      (instants.Pairwise (· < ·) ∧ ∀ t, t ∈ instants ↔
        0 < minutes ∧ ∃ k : Nat, t = start + k * (minutes * 60000) ∧ t < stop) ∧
      (available.Pairwise (· < ·) ∧ ∀ t, t ∈ available ↔
        t ∈ instants ∧ ∃ s ∈ patterns, ∃ p, Pattern.parse s = .ok p ∧ p.accepts t = true) ∧
      let found := available.filter (fun t => t ∈ instants.take 1000000)
      let slots := found.take w.settings.maxSlots
      ∃ (texts : List String) (isTruncated : Bool),
        (Request.slots patterns start stop minutes).answer w =
          .success (.object [("slots", .array (texts.map Json.string)),
            ("truncated", .bool isTruncated),
            ("skipped", Json.ofInt
              (patterns.countP (fun s => (Pattern.parse s).toOption.isNone)))]) ∧
        (texts.map some = slots.map Stamp.text? ∧ texts.map Stamp.parse? = slots.map some) ∧
        (isTruncated = true ↔
          w.settings.maxSlots < found.length ∨ 1000000 < instants.length) ∧
        (isTruncated = false → slots = available) := by
  have hzero : 0 ≤ start := Int.le_trans (by decide) hstart
  have hleast : Instant.least ≤ start := Int.le_trans (by decide) hzero
  have hgreatest : stop ≤ Instant.greatest := Int.le_trans hstop (by decide)
  let a := (Availability.ofQuota { count := 0 }).addTexts patterns
  let instants := (Walk.ofMinutes start stop minutes).instants
  have hsorted : instants.Pairwise (· < ·) := Walk.pairwise_instants_ofMinutes hleast hgreatest
  have hnodup : instants.Nodup := hsorted.imp Int.ne_of_lt
  refine ⟨instants, instants.filter a.isAvailable,
    ⟨hsorted, fun t => Walk.mem_instants_ofMinutes hleast hgreatest⟩,
    ⟨hsorted.filter _, fun t => ?_⟩, ?_⟩
  · rw [List.mem_filter, Availability.isAvailable_addTexts]
  intro found slots
  have hfound : found = (instants.take 1000000).filter a.isAvailable :=
    filter_mem_take hnodup a.isAvailable 1000000
  have hslots : ∀ t ∈ slots, Instant.isRepresentable t = true := by
    intro t ht
    have hmem := List.mem_of_mem_filter (List.mem_of_mem_take ht)
    obtain ⟨s, -, p, -, haccepts⟩ := Availability.isAvailable_addTexts.1 (List.mem_filter.1 hmem).2
    exact Pattern.isRepresentable_of_accepts haccepts
  have haccepted : Desk.isWithinLimits start stop = true := by
    rw [Desk.isWithinLimits, decide_eq_true hstart, decide_eq_true hstop, Bool.and_self]
  have hshort : patterns.any (fun s => Pattern.maxLength < s.utf8ByteSize) = false :=
    List.any_eq_false.2 fun s hs => by simpa using hlength s hs
  refine ⟨slots.filterMap Stamp.text?,
    w.settings.maxSlots < found.length || 1000000 < instants.length, ?_,
    Stamp.map_filterMap_text? hslots, ?_, fun hall => ?_⟩
  · rw [Request.answer, Answer.slots, haccepted, hshort,
      SlotList.ofWindow_eq w.settings.maxSlots patterns minutes hzero hgreatest, SlotList.toJson]
    simp only [slots, hfound, a, instants, Bool.not_true, Bool.false_eq_true, if_false]
  · rw [Bool.or_eq_true, decide_eq_true_eq, decide_eq_true_eq]
  · rw [Bool.or_eq_false_iff, decide_eq_false_iff_not, decide_eq_false_iff_not, Nat.not_lt,
      Nat.not_lt] at hall
    calc slots = found := List.take_of_length_le hall.1
      _ = instants.filter a.isAvailable := by rw [hfound, List.take_of_length_le hall.2]

/-- Half hours from 9:00 to 11:00, of which two texts take the first three; the settings allow two. -/
theorem Request.slots_lists_available_halfHours :
    let patterns := ["0 * * * *", "every hour", "30 9 * * *"]
    (Desk.earliest ≤ 1672909200000 ∧ 1672916400000 ≤ Desk.latest ∧
      ∀ s ∈ patterns, s.utf8ByteSize ≤ Pattern.maxLength) ∧
    (Request.slots patterns 1672909200000 1672916400000 30).answer
        { settings := { maxSlots := 2 }, now := 0, fresh := .ofNat } =
      .success (.object [("slots", .array [.string "2023-01-05T09:00:00Z",
          .string "2023-01-05T09:30:00Z"]), ("truncated", .bool true), ("skipped", Json.ofInt 1)]) := by
  intro patterns
  have hstart : Desk.earliest ≤ 1672909200000 := by decide
  have hstop : 1672916400000 ≤ Desk.latest := by decide
  have hlength : ∀ s ∈ patterns, s.utf8ByteSize ≤ Pattern.maxLength := by decide
  refine ⟨⟨hstart, hstop, hlength⟩, ?_⟩
  obtain ⟨instants, available, ⟨hsorted, hinstants⟩, ⟨hsorted', havailable⟩, texts, isTruncated,
    hanswer, ⟨htexts, -⟩, htruncated, -⟩ := Request.slots_lists_available
      { settings := { maxSlots := 2 }, now := 0, fresh := .ofNat } patterns 1672909200000
      1672916400000 30 hstart hstop hlength
  obtain rfl : instants = [1672909200000, 1672911000000, 1672912800000, 1672914600000] := by
    refine hsorted.eq_of_mem_iff (by decide) fun t => (hinstants t).trans ?_
    simp only [List.mem_cons, List.not_mem_nil, or_false]
    constructor
    · rintro ⟨-, k, rfl, hk⟩
      omega
    · intro ht
      exact ⟨by decide, ((t - 1672909200000) / 1800000).toNat, by omega, by omega⟩
  let a := (Availability.ofQuota { count := 0 }).addTexts patterns
  have hfiltered : available = List.filter a.isAvailable _ :=
    hsorted'.eq_of_mem_iff (hsorted.filter _) fun t => by
      rw [havailable, List.mem_filter, Availability.isAvailable_addTexts]
  obtain rfl : available = [1672909200000, 1672911000000, 1672912800000] :=
    hfiltered.trans (by decide +kernel)
  obtain rfl : isTruncated = true := htruncated.2 (by decide)
  obtain rfl : texts = ["2023-01-05T09:00:00Z", "2023-01-05T09:30:00Z"] := by
    refine List.map_injective_iff.2 (Option.some_injective _) (htexts.trans ?_)
    decide +kernel
  exact hanswer

end Booking
