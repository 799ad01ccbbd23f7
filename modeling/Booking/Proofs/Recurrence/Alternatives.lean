import Booking.Proofs.Recurrence.Canonical
import Mathlib.Data.List.Sections
import Mathlib.Logic.Function.Basic
/-!
# Alternatives

A comma stands between alternatives. In one list the fields of both sides are put together
(`Field.parseList_append`), and a text of five lists is a pattern if each of them is a list
(`Pattern.parse_spell_iff`); an empty one is none, and then the text has too few words. So a pattern
accepts what one of its choices accepts, each of which keeps one alternative of every list
(`Pattern.accepts_iff_choices`).
-/
namespace Booking

/-! ## Lists -/

theorem Text.pieces_append (sep : Char) (a b : List Char) :
    Text.pieces (· == sep) (a ++ sep :: b) =
      Text.pieces (· == sep) a ++ Text.pieces (· == sep) b := by
  simp only [Text.pieces_eq_splitOnP]
  exact List.splitOnP_append_cons a b (beq_self_eq_true sep)

section

variable {d : Dimension} {cs a b token : List Char} {f : Field} {fs : List Field}

theorem Field.parseList_eq_ok_iff_pieces :
    Field.parseList d cs = .ok fs ↔
      List.Forall₂ (Field.Written d) (Text.pieces (· == ',') cs) fs := by
  rw [Field.parseList_eq_ok_iff_check, Field.readList, mapM_eq_ok_iff, Field.checkList_eq_ok_iff,
    Field.forall₂_written_iff]

/-- **A comma puts the fields of two lists together.** -/
theorem Field.parseList_append :
    Field.parseList d (a ++ ',' :: b) = .ok fs ↔
      ∃ fa fb, Field.parseList d a = .ok fa ∧ Field.parseList d b = .ok fb ∧ fs = fa ++ fb := by
  simp only [Field.parseList_eq_ok_iff_pieces, Text.pieces_append]
  constructor
  · intro h
    exact ⟨_, _, (List.forall₂_take_append _ _ _ h.flip).flip,
      (List.forall₂_drop_append _ _ _ h.flip).flip, (List.take_append_drop _ fs).symm⟩
  · rintro ⟨fa, fb, ha, hb, rfl⟩
    exact List.rel_append ha hb

theorem Field.parseList_of_written (h : Field.Written d token f) :
    Field.parseList d token = .ok [f] :=
  Field.parseList_eq_ok_iff.2 ⟨[token], by simp, by simp, .cons h .nil⟩

theorem Field.not_parseList_nil : ¬ Field.parseList d [] = .ok fs :=
  fun h => (Field.parseList_eq_ok_iff.1 h).ne_nil rfl

end

/-! ## Dimensions -/

/-- Five entries, one for each dimension. -/
def Dimension.entries {α : Type} (minute hour dayOfMonth month dayOfWeek : α) : Dimension → α
  | .minute => minute
  | .hour => hour
  | .dayOfMonth => dayOfMonth
  | .month => month
  | .dayOfWeek => dayOfWeek

/-- A list beside the dimensions has an entry for each. -/
theorem Dimension.forall₂_all_iff {α : Type} {R : Dimension → α → Prop} {l : List α} :
    List.Forall₂ R Dimension.all l ↔
      ∃ w : Dimension → α, l = Dimension.all.map w ∧ ∀ d, R d (w d) := by
  constructor
  · intro h
    simp only [Dimension.all, List.forall₂_cons_left_iff, List.forall₂_nil_left_iff] at h
    obtain ⟨minute, _, hminute, ⟨hour, _, hhour, ⟨day, _, hday, ⟨month, _, hmonth,
      ⟨weekday, _, hweekday, rfl, rfl⟩, rfl⟩, rfl⟩, rfl⟩, rfl⟩ := h
    refine ⟨Dimension.entries minute hour day month weekday, rfl, fun d => ?_⟩
    cases d <;> assumption
  · rintro ⟨w, rfl, h⟩
    rw [List.forall₂_map_right_iff, List.forall₂_same]
    exact fun d _ => h d

/-! ## Patterns -/

/-- The pattern with these lists. -/
def Pattern.ofFields (fs : Dimension → List Field) : Pattern where
  minutes := fs .minute
  hours := fs .hour
  daysOfMonth := fs .dayOfMonth
  months := fs .month
  daysOfWeek := fs .dayOfWeek

/-- The pattern with another list in one dimension. -/
def Pattern.withFields (p : Pattern) (d : Dimension) (fs : List Field) : Pattern :=
  .ofFields (Function.update p.fields d fs)

@[simp] theorem Pattern.fields_ofFields (fs : Dimension → List Field) (d : Dimension) :
    (Pattern.ofFields fs).fields d = fs d := by
  cases d <;> rfl

theorem Pattern.fields_withFields (p : Pattern) (d : Dimension) (fs : List Field) :
    (p.withFields d fs).fields = Function.update p.fields d fs := by
  funext d'
  rw [Pattern.withFields, Pattern.fields_ofFields]

theorem Pattern.withFields_fields (p : Pattern) (d : Dimension) :
    p.withFields d (p.fields d) = p := by
  rw [Pattern.withFields, Function.update_eq_self]
  rfl

section

variable {p : Pattern} {d : Dimension} {fs : List Field} {t : Int}

theorem Pattern.accepts_withFields_iff :
    (p.withFields d fs).accepts t = true ↔
      ∃ s, Sample.ofInstant? t = some s ∧ (∃ f ∈ fs, f.accepts (s.value d) = true) ∧
        ∀ d' ≠ d, ∃ f ∈ p.fields d', f.accepts (s.value d') = true := by
  rw [Pattern.accepts_iff, Pattern.fields_withFields]
  refine exists_congr fun s => and_congr_right fun _ => ?_
  exact Function.forall_update_iff p.fields fun d' fs => ∃ f ∈ fs, f.accepts (s.value d') = true

/-- **With the alternatives of two lists a pattern accepts what it accepts with one of them.** -/
theorem Pattern.accepts_withFields_append (p : Pattern) (d : Dimension) (fa fb : List Field)
    (t : Int) :
    (p.withFields d (fa ++ fb)).accepts t =
      ((p.withFields d fa).accepts t || (p.withFields d fb).accepts t) := by
  rw [Bool.eq_iff_iff, Bool.or_eq_true, Pattern.accepts_withFields_iff,
    Pattern.accepts_withFields_iff, Pattern.accepts_withFields_iff]
  simp only [List.mem_append, or_and_right, exists_or, and_or_left]

end

/-! ## Texts of five lists -/

/-- The five texts, one for each dimension, with a blank between them. -/
def Pattern.spell (f : Dimension → String) : String := " ".intercalate (Dimension.all.map f)

theorem Text.words_append {w : List Char} (hw : ∀ c ∈ w, Text.isBlank c = false) (rest : List Char)
    (hrest : ∀ c ∈ rest.head?, Text.isBlank c = true) :
    Text.words (w ++ rest) = [w].filter (fun w => !w.isEmpty) ++ Text.words rest := by
  by_cases hne : w = []
  · subst hne
    rfl
  · rw [Text.words_append_of_word hne hw hrest, List.filter_cons_of_pos (by simpa using hne)]
    rfl

/-- Of texts without blanks, those that are not empty are the words. -/
theorem Text.words_intercalate : ∀ {ws : List (List Char)},
    (∀ w ∈ ws, ∀ c ∈ w, Text.isBlank c = false) →
      Text.words ([' '].intercalate ws) = ws.filter (fun w => !w.isEmpty)
  | [], _ => rfl
  | [w], h => by
    have hword := Text.words_append (h w List.mem_cons_self) [] (by simp)
    rw [List.append_nil, show Text.words [] = [] from rfl, List.append_nil] at hword
    rwa [List.intercalate_singleton]
  | w :: w' :: ws, h => by
    obtain ⟨hw, hws⟩ := List.forall_mem_cons.1 h
    have hblank : Text.isBlank ' ' = true := by decide
    rw [List.intercalate_cons_cons, List.append_assoc, Text.words_append hw _ (by simpa using hblank),
      List.singleton_append, Text.words_cons_of_blank hblank, Text.words_intercalate hws,
      ← List.filter_append, List.singleton_append]

/-- None of the five texts has a blank. -/
def Pattern.Blankless (f : Dimension → String) : Prop :=
  ∀ d, ∀ c ∈ (f d).toList, Text.isBlank c = false

instance Pattern.decidableBlankless (f : Dimension → String) : Decidable (Pattern.Blankless f) :=
  decidable_of_iff
    (Dimension.all.all (fun d => (f d).toList.all (fun c => !Text.isBlank c)) = true) (by
      simp only [List.all_eq_true, Bool.not_eq_true', Dimension.mem_all, forall_const]
      exact Iff.rfl)

section

variable {f : Dimension → String} {d : Dimension} {a b : String} {p : Pattern} {fs : List Field}

/-- **Five texts without blanks are a pattern if each of them is a list.** An empty one is none. -/
theorem Pattern.parse_spell_iff (hf : Pattern.Blankless f) :
    Pattern.parse (Pattern.spell f) = .ok p ↔
      ∀ d, Field.parseList d (f d).toList = .ok (p.fields d) := by
  let ws := Dimension.all.map fun d => (f d).toList
  have hblank : ∀ w ∈ ws, ∀ c ∈ w, Text.isBlank c = false := by
    intro w hw
    obtain ⟨d, -, rfl⟩ := List.mem_map.1 hw
    exact hf d
  have htext : (Pattern.spell f).toList = [' '].intercalate ws := by
    rw [Pattern.spell, String.toList_intercalate, List.map_map]
    rfl
  rw [Pattern.parse, Pattern.parseText_eq_ok_iff, htext, Text.words_intercalate hblank]
  constructor
  · intro h d
    -- five words are left, so none of the five texts was empty
    have hall : ws.filter (fun w => !w.isEmpty) = ws :=
      List.filter_sublist.eq_of_length h.length_eq.symm
    rw [hall, List.forall₂_map_right_iff, List.forall₂_same] at h
    exact h d d.mem_all
  · intro h
    have hall : ws.filter (fun w => !w.isEmpty) = ws := by
      refine List.filter_eq_self.2 fun w hw => ?_
      obtain ⟨d, -, rfl⟩ := List.mem_map.1 hw
      simp only [Bool.not_eq_true', List.isEmpty_eq_false_iff]
      intro hnil
      have hd := h d
      rw [hnil] at hd
      exact Field.not_parseList_nil hd
    rw [hall, List.forall₂_map_right_iff, List.forall₂_same]
    exact fun d _ => h d

theorem Pattern.exists_parse_spell_iff (hf : Pattern.Blankless f) :
    (∃ p, Pattern.parse (Pattern.spell f) = .ok p) ↔
      ∀ d, ∃ fs, Field.parseList d (f d).toList = .ok fs := by
  simp only [Pattern.parse_spell_iff hf]
  constructor
  · rintro ⟨p, h⟩ d
    exact ⟨_, h d⟩
  · intro h
    choose lists hlists using h
    refine ⟨.ofFields lists, fun d => ?_⟩
    rw [Pattern.fields_ofFields]
    exact hlists d

theorem Pattern.parse_spell_update_iff (hf : Pattern.Blankless (Function.update f d a)) :
    Pattern.parse (Pattern.spell (Function.update f d a)) = .ok p ↔
      Field.parseList d a.toList = .ok (p.fields d) ∧
        ∀ d' ≠ d, Field.parseList d' (f d').toList = .ok (p.fields d') := by
  rw [Pattern.parse_spell_iff hf]
  exact Function.forall_update_iff f fun d' s => Field.parseList d' s.toList = .ok (p.fields d')

theorem Pattern.parse_spell_update_iff_withFields
    (hf : Pattern.Blankless (Function.update f d a)) :
    Pattern.parse (Pattern.spell (Function.update f d a)) = .ok (p.withFields d fs) ↔
      Field.parseList d a.toList = .ok fs ∧
        ∀ d' ≠ d, Field.parseList d' (f d').toList = .ok (p.fields d') := by
  rw [Pattern.parse_spell_update_iff hf, Pattern.fields_withFields, Function.update_self]
  refine and_congr_right fun _ => forall₂_congr fun d' hd' => ?_
  rw [Function.update_of_ne hd']

theorem Pattern.exists_parse_spell_update_iff (hf : Pattern.Blankless (Function.update f d a)) :
    (∃ p, Pattern.parse (Pattern.spell (Function.update f d a)) = .ok p) ↔
      (∃ fs, Field.parseList d a.toList = .ok fs) ∧
        ∀ d' ≠ d, ∃ fs, Field.parseList d' (f d').toList = .ok fs := by
  rw [Pattern.exists_parse_spell_iff hf]
  exact Function.forall_update_iff f fun d' s => ∃ fs, Field.parseList d' s.toList = .ok fs

/-! ### A comma -/

theorem Pattern.toList_of_comma (hcomma : f d = a ++ "," ++ b) :
    (f d).toList = a.toList ++ ',' :: b.toList := by
  rw [hcomma, String.toList_append, String.toList_append, List.append_assoc]
  rfl

theorem Pattern.Blankless.update_of_comma (hf : Pattern.Blankless f)
    (hcomma : f d = a ++ "," ++ b) :
    Pattern.Blankless (Function.update f d a) ∧ Pattern.Blankless (Function.update f d b) := by
  have hpart {s : String} (hs : s.toList ⊆ (f d).toList) :
      Pattern.Blankless (Function.update f d s) := by
    rw [Pattern.Blankless,
      Function.forall_update_iff f fun _ s => ∀ c ∈ s.toList, Text.isBlank c = false]
    exact ⟨fun c hc => hf d c (hs hc), fun d' _ => hf d'⟩
  rw [Pattern.toList_of_comma hcomma] at hpart
  exact ⟨hpart (List.subset_append_left _ _),
    hpart fun c hc => List.mem_append_right _ (List.mem_cons_of_mem _ hc)⟩

/-- **A comma in a text puts two patterns together**: the text is a pattern if the two texts are, each
with one side of the comma, and it has the fields of both. -/
theorem Pattern.parse_spell_comma_iff (hf : Pattern.Blankless f) (hcomma : f d = a ++ "," ++ b) :
    Pattern.parse (Pattern.spell f) = .ok p ↔
      ∃ fa fb, p.fields d = fa ++ fb ∧
        Pattern.parse (Pattern.spell (Function.update f d a)) = .ok (p.withFields d fa) ∧
        Pattern.parse (Pattern.spell (Function.update f d b)) = .ok (p.withFields d fb) := by
  obtain ⟨hfa, hfb⟩ := hf.update_of_comma hcomma
  have hboth : Pattern.parse (Pattern.spell f) = .ok p ↔
      (∃ fa fb, Field.parseList d a.toList = .ok fa ∧ Field.parseList d b.toList = .ok fb ∧
        p.fields d = fa ++ fb) ∧
      ∀ d' ≠ d, Field.parseList d' (f d').toList = .ok (p.fields d') := by
    have hself := Function.update_eq_self d f
    rw [← Field.parseList_append, ← Pattern.toList_of_comma hcomma,
      ← Pattern.parse_spell_update_iff (by rwa [hself]), hself]
  simp only [hboth, Pattern.parse_spell_update_iff_withFields hfa,
    Pattern.parse_spell_update_iff_withFields hfb]
  constructor
  · rintro ⟨⟨fa, fb, ha, hb, hfields⟩, hothers⟩
    exact ⟨fa, fb, hfields, ⟨ha, hothers⟩, hb, hothers⟩
  · rintro ⟨fa, fb, hfields, ⟨ha, hothers⟩, hb, -⟩
    exact ⟨⟨fa, fb, ha, hb, hfields⟩, hothers⟩

theorem Pattern.exists_parse_spell_comma_iff (hf : Pattern.Blankless f)
    (hcomma : f d = a ++ "," ++ b) :
    (∃ p, Pattern.parse (Pattern.spell f) = .ok p) ↔
      (∃ p, Pattern.parse (Pattern.spell (Function.update f d a)) = .ok p) ∧
        ∃ p, Pattern.parse (Pattern.spell (Function.update f d b)) = .ok p := by
  obtain ⟨hfa, hfb⟩ := hf.update_of_comma hcomma
  have hself := Function.update_eq_self d f
  have hlist : (∃ fs, Field.parseList d (f d).toList = .ok fs) ↔
      (∃ fa, Field.parseList d a.toList = .ok fa) ∧
        ∃ fb, Field.parseList d b.toList = .ok fb := by
    simp only [Pattern.toList_of_comma hcomma, Field.parseList_append]
    constructor
    · rintro ⟨-, fa, fb, ha, hb, -⟩
      exact ⟨⟨fa, ha⟩, fb, hb⟩
    · rintro ⟨⟨fa, ha⟩, fb, hb⟩
      exact ⟨_, fa, fb, ha, hb, rfl⟩
  have hwhole := Pattern.exists_parse_spell_update_iff (f := f) (d := d) (a := f d)
    (by rwa [hself])
  rw [hself] at hwhole
  rw [hwhole, Pattern.exists_parse_spell_update_iff hfa, Pattern.exists_parse_spell_update_iff hfb,
    hlist]
  exact and_and_right

end

/-! ## Choices -/

/-- The texts that keep one alternative of each word, chosen in every way. -/
def Pattern.choices (s : String) : List String :=
  ((Text.words s.toList).map (Text.pieces (· == ','))).sections.map
    (fun tokens => " ".intercalate (tokens.map String.ofList))

section

variable {s s' : String} {p : Pattern} {w : Dimension → List Char}

theorem Pattern.mem_choices_iff (hw : Text.words s.toList = Dimension.all.map w) :
    s' ∈ Pattern.choices s ↔
      ∃ c : Dimension → List Char, (∀ d, c d ∈ Text.pieces (· == ',') (w d)) ∧
        s' = Pattern.spell (fun d => String.ofList (c d)) := by
  have hsections (tokens : List (List Char)) :
      tokens ∈ ((Text.words s.toList).map (Text.pieces (· == ','))).sections ↔
        ∃ c : Dimension → List Char, tokens = Dimension.all.map c ∧
          ∀ d, c d ∈ Text.pieces (· == ',') (w d) := by
    rw [List.mem_sections, hw, List.map_map, List.forall₂_map_right_iff,
      ← Dimension.forall₂_all_iff]
    exact ⟨List.Forall₂.flip, List.Forall₂.flip⟩
  simp only [Pattern.choices, List.mem_map, hsections, Pattern.spell]
  constructor
  · rintro ⟨-, ⟨c, rfl, hc⟩, rfl⟩
    exact ⟨c, hc, by rw [List.map_map]; rfl⟩
  · rintro ⟨c, hc, rfl⟩
    exact ⟨_, ⟨c, rfl, hc⟩, by rw [List.map_map]; rfl⟩

/-- One token for each dimension is a pattern with one field for each. -/
theorem Pattern.parse_spell_of_written {c : Dimension → List Char} {f : Dimension → Field}
    (h : ∀ d, Field.Written d (c d) (f d)) :
    Pattern.parse (Pattern.spell fun d => String.ofList (c d)) = .ok (.ofFields fun d => [f d]) := by
  have hblank : Pattern.Blankless fun d => String.ofList (c d) := by
    intro d
    rw [String.toList_ofList]
    exact (h d).isBlank_eq_false
  rw [Pattern.parse_spell_iff hblank]
  intro d
  rw [String.toList_ofList, Pattern.fields_ofFields]
  exact Field.parseList_of_written (h d)

/-- The words of a pattern, and what stands for what in them. -/
theorem Pattern.exists_words_of_parse (h : Pattern.parse s = .ok p) :
    ∃ w : Dimension → List Char, Text.words s.toList = Dimension.all.map w ∧
      ∀ d, List.Forall₂ (Field.Written d) (Text.pieces (· == ',') (w d)) (p.fields d) := by
  rw [Pattern.parse, Pattern.parseText_eq_ok_iff, Dimension.forall₂_all_iff] at h
  obtain ⟨w, hw, h⟩ := h
  exact ⟨w, hw, fun d => Field.parseList_eq_ok_iff_pieces.1 (h d)⟩

/-- **The choices are the patterns with one field of each list**, and every choice is one of them. -/
theorem Pattern.parse_choices (h : Pattern.parse s = .ok p) :
    (∀ s' ∈ Pattern.choices s, ∃ q, Pattern.parse s' = .ok q) ∧
    ∀ q, (∃ s' ∈ Pattern.choices s, Pattern.parse s' = .ok q) ↔
      ∃ f : Dimension → Field, (∀ d, f d ∈ p.fields d) ∧ q = .ofFields fun d => [f d] := by
  obtain ⟨w, hw, hwritten⟩ := Pattern.exists_words_of_parse h
  have hchoice : ∀ s' ∈ Pattern.choices s, ∃ f : Dimension → Field, (∀ d, f d ∈ p.fields d) ∧
      Pattern.parse s' = .ok (.ofFields fun d => [f d]) := by
    intro s' hs'
    obtain ⟨c, hc, rfl⟩ := (Pattern.mem_choices_iff hw).1 hs'
    choose f hf hcf using fun d => exists_mem_of_forall₂ (hwritten d) (c d) (hc d)
    exact ⟨f, hf, Pattern.parse_spell_of_written hcf⟩
  refine ⟨fun s' hs' => ?_, fun q => ⟨?_, ?_⟩⟩
  · obtain ⟨f, -, hparse⟩ := hchoice s' hs'
    exact ⟨_, hparse⟩
  · rintro ⟨s', hs', hq⟩
    obtain ⟨f, hf, hparse⟩ := hchoice s' hs'
    exact ⟨f, hf, Except.ok.inj (hq.symm.trans hparse)⟩
  · rintro ⟨f, hf, rfl⟩
    choose c hc hcf using fun d => exists_mem_of_forall₂ (hwritten d).flip (f d) (hf d)
    exact ⟨_, (Pattern.mem_choices_iff hw).2 ⟨c, hc, rfl⟩, Pattern.parse_spell_of_written hcf⟩

theorem Pattern.accepts_iff_exists_field {t : Int} :
    p.accepts t = true ↔
      ∃ f : Dimension → Field, (∀ d, f d ∈ p.fields d) ∧
        (Pattern.ofFields fun d => [f d]).accepts t = true := by
  simp only [Pattern.accepts_iff, Pattern.fields_ofFields, List.mem_singleton, exists_eq_left]
  constructor
  · rintro ⟨x, hx, hfields⟩
    choose f hf hfx using hfields
    exact ⟨f, hf, x, hx, hfx⟩
  · rintro ⟨f, hf, x, hx, hfx⟩
    exact ⟨x, hx, fun d => ⟨f d, hf d, hfx d⟩⟩

/-- **A pattern accepts what one of its choices accepts.** -/
theorem Pattern.accepts_iff_choices (h : Pattern.parse s = .ok p) {t : Int} :
    p.accepts t = true ↔
      ∃ s' ∈ Pattern.choices s, ∃ q, Pattern.parse s' = .ok q ∧ q.accepts t = true := by
  have hchoices := (Pattern.parse_choices h).2
  rw [Pattern.accepts_iff_exists_field]
  constructor
  · rintro ⟨f, hf, haccepts⟩
    obtain ⟨s', hs', hparse⟩ := (hchoices _).2 ⟨f, hf, rfl⟩
    exact ⟨s', hs', _, hparse, haccepts⟩
  · rintro ⟨s', hs', q, hparse, haccepts⟩
    obtain ⟨f, hf, rfl⟩ := (hchoices q).1 ⟨s', hs', hparse⟩
    exact ⟨f, hf, haccepts⟩

end

end Booking
