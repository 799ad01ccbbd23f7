import Booking.Proofs.Text.Numeral
import Booking.Proofs.Text.Split
import Booking.Proofs.Traverse
import Booking.Recurrence.Reader
/-!
# The grammar of patterns

Which texts `Pattern.parse` accepts, and what it makes of them, said without splitting at the first
separator: a number is a run of digits, a token has one of six forms, a list is tokens with commas
between them, and a pattern is five lists spaced by blanks.
-/
namespace Booking

/-! ## Numbers -/

/-- A run of digits, leading zeros allowed, whose value is `n` and in range. -/
def Field.IsNumeral (cs : List Char) (n : Nat) : Prop :=
  cs ≠ [] ∧ (∀ c ∈ cs, c.isDigit = true) ∧ Nat.ofDigitChars 10 cs 0 = n ∧ n < Field.numberBound

theorem Field.number?_eq_some_iff {cs : List Char} {n : Nat} :
    Field.number? cs = some n ↔ Field.IsNumeral cs n := by
  rw [Field.number?, Text.numeralBelow?_eq_some_iff, Text.numeral?_eq_some_iff, Field.IsNumeral,
    and_assoc, and_assoc]

theorem Field.IsNumeral.notMem {cs : List Char} {n : Nat} (h : Field.IsNumeral cs n) {c : Char}
    (hc : c.isDigit = false) : c ∉ cs := by
  intro hmem
  rw [h.2.1 c hmem] at hc
  cases hc

/-! ## Tokens -/

/-- **The token has one of the six forms, and stands for the field**, whatever its numbers are: `*`,
`*/S`, `/S`, `N`, `A-B` or `A-B/S`. -/
inductive Field.Formed (d : Dimension) : List Char → Field → Prop where
  | any : Formed d ['*'] .any
  | starStep {s : List Char} {step : Nat} (hs : Field.IsNumeral s step) :
      Formed d ('*' :: '/' :: s) (.range d.least d.greatest step)
  | bareStep {s : List Char} {step : Nat} (hs : Field.IsNumeral s step) :
      Formed d ('/' :: s) (.range d.least d.greatest step)
  | single {s : List Char} {n : Nat} (hs : Field.IsNumeral s n) : Formed d s (.range n n 1)
  | ends {x y : List Char} {a b : Nat} (hx : Field.IsNumeral x a) (hy : Field.IsNumeral y b) :
      Formed d (x ++ '-' :: y) (.range a b 1)
  | endsStep {x y s : List Char} {a b step : Nat} (hx : Field.IsNumeral x a)
      (hy : Field.IsNumeral y b) (hs : Field.IsNumeral s step) :
      Formed d (x ++ '-' :: (y ++ '/' :: s)) (Field.stepped a b step)

theorem Field.ends?_eq_some_iff {cs : List Char} {a b : Nat} :
    Field.ends? cs = some (a, b) ↔
      ∃ x y, cs = x ++ '-' :: y ∧ Field.IsNumeral x a ∧ Field.IsNumeral y b := by
  simp only [Field.ends?, Option.bind_eq_bind, Option.bind_eq_some_iff, Option.pure_def,
    Option.some.injEq, Prod.mk.injEq, Field.number?_eq_some_iff, Prod.exists]
  constructor
  · rintro ⟨x, y, hcut, a, hx, b, hy, rfl, rfl⟩
    exact ⟨x, y, (Text.cut_eq_some_iff.1 hcut).2, hx, hy⟩
  · rintro ⟨x, y, rfl, hx, hy⟩
    exact ⟨x, y, Text.cut_append y (hx.notMem (by decide)), a, hx, b, hy, rfl, rfl⟩

theorem Field.IsNumeral.slash_notMem {x y : List Char} {a b : Nat} (hx : Field.IsNumeral x a)
    (hy : Field.IsNumeral y b) : '/' ∉ x ++ '-' :: y := by
  have hdigit : Char.isDigit '/' = false := by decide
  simp [hx.notMem hdigit, hy.notMem hdigit]

theorem Field.append_dash_ne_star (x y : List Char) : x ++ '-' :: y ≠ ['*'] := by
  intro h
  have hmem : '-' ∈ ['*'] := by
    rw [← h]
    simp
  exact absurd hmem (by decide)

theorem Dimension.least_ne_greatest (d : Dimension) : d.least ≠ d.greatest := by
  cases d <;> decide

theorem Dimension.admits_least (d : Dimension) : d.admits d.least = true := by
  cases d <;> decide

theorem Dimension.admits_greatest (d : Dimension) : d.admits d.greatest = true := by
  cases d <;> decide

theorem Field.stepped_of_ne {a b : Nat} (h : a ≠ b) (step : Nat) :
    Field.stepped a b step = .range a b step := by
  simp [Field.stepped, h]

theorem Field.stepped_of_pos (a b : Nat) {step : Nat} (h : 1 ≤ step) :
    Field.stepped a b step = .range a b (if a = b then 1 else step) := by
  unfold Field.stepped
  by_cases hab : a = b
  · by_cases hs : 1 < step
    · simp [hab, hs]
    · simp [hab, Nat.le_antisymm (Nat.le_of_not_lt hs) h]
  · simp [hab]

theorem Field.one_le_of_hasStep_stepped {a b step : Nat}
    (h : (Field.stepped a b step).hasStep = true) : 1 ≤ step := by
  refine Nat.one_le_iff_ne_zero.2 (fun h0 => ?_)
  subst h0
  simp [Field.stepped, Field.hasStep] at h

theorem Field.Formed.ofToken?_eq {d : Dimension} {token : List Char} {f : Field}
    (h : Field.Formed d token f) : Field.ofToken? d token = some f := by
  cases h with
  | any => simp [Field.ofToken?, Text.cut]
  | @starStep s step hs =>
    have hcut : Text.cut '/' ('*' :: '/' :: s) = some (['*'], s) :=
      Text.cut_append (a := ['*']) s (by decide)
    rw [Field.ofToken?, hcut]
    simp [Field.number?_eq_some_iff.2 hs, Field.stepped_of_ne d.least_ne_greatest]
  | @bareStep s step hs =>
    have hcut : Text.cut '/' ('/' :: s) = some ([], s) :=
      Text.cut_append (a := []) s (by decide)
    rw [Field.ofToken?, hcut]
    simp [Field.number?_eq_some_iff.2 hs, Field.stepped_of_ne d.least_ne_greatest]
  | single hs =>
    have hcut : Text.cut '/' token = none := Text.cut_eq_none_iff.2 (hs.notMem (by decide))
    have hstar : token ≠ ['*'] := by
      rintro rfl
      exact absurd List.mem_cons_self (hs.notMem (c := '*') (by decide))
    have hdash : '-' ∉ token := hs.notMem (by decide)
    rw [Field.ofToken?, hcut]
    simp [hstar, hdash, Field.number?_eq_some_iff.2 hs]
  | @ends x y a b hx hy =>
    have hends : Field.ends? (x ++ '-' :: y) = some (a, b) :=
      Field.ends?_eq_some_iff.2 ⟨x, y, rfl, hx, hy⟩
    rw [Field.ofToken?, Text.cut_eq_none_iff.2 (hx.slash_notMem hy)]
    simp [Field.append_dash_ne_star x y, hends]
  | @endsStep x y s a b step hx hy hs =>
    have hends : Field.ends? (x ++ '-' :: y) = some (a, b) :=
      Field.ends?_eq_some_iff.2 ⟨x, y, rfl, hx, hy⟩
    have hcut : Text.cut '/' (x ++ '-' :: (y ++ '/' :: s)) = some (x ++ '-' :: y, s) := by
      rw [← List.cons_append, ← List.append_assoc]
      exact Text.cut_append s (hx.slash_notMem hy)
    rw [Field.ofToken?, hcut]
    simp [Field.append_dash_ne_star x y, hends, Field.number?_eq_some_iff.2 hs]

/-- **A token is read as a field if it has a form that stands for it.** -/
theorem Field.ofToken?_eq_some_iff {d : Dimension} {token : List Char} {f : Field} :
    Field.ofToken? d token = some f ↔ Field.Formed d token f := by
  refine ⟨fun h => ?_, Field.Formed.ofToken?_eq⟩
  unfold Field.ofToken? at h
  split at h
  · -- with a step: the whole dimension or a range
    rename_i ends s hcut
    obtain ⟨-, rfl⟩ := Text.cut_eq_some_iff.1 hcut
    simp only [Option.bind_eq_bind, Option.bind_eq_some_iff, Option.pure_def] at h
    obtain ⟨step, hnumber, h⟩ := h
    have hs := Field.number?_eq_some_iff.1 hnumber
    split at h
    · rename_i hwhole
      cases h
      rw [Field.stepped_of_ne d.least_ne_greatest]
      rcases hwhole with rfl | rfl
      · exact .starStep hs
      · exact .bareStep hs
    · obtain ⟨⟨a, b⟩, hab, he⟩ := Option.bind_eq_some_iff.1 h
      cases he
      obtain ⟨x, y, rfl, hx, hy⟩ := Field.ends?_eq_some_iff.1 hab
      rw [List.append_assoc, List.cons_append]
      exact .endsStep hx hy hs
  · split at h
    · rename_i htoken
      cases h
      rw [htoken]
      exact .any
    · split at h
      · obtain ⟨⟨a, b⟩, hab, rfl⟩ := Option.map_eq_some_iff.1 h
        obtain ⟨x, y, rfl, hx, hy⟩ := Field.ends?_eq_some_iff.1 hab
        exact .ends hx hy
      · obtain ⟨n, hn, rfl⟩ := Option.map_eq_some_iff.1 h
        exact .single (Field.number?_eq_some_iff.1 hn)

/-! ## Tokens that pass their check -/

/-- **The token is written in one of the six forms, and stands for the field**: `*`, `*/S`, `/S`,
`N`, `A-B` or `A-B/S`. -/
inductive Field.Written (d : Dimension) : List Char → Field → Prop where
  | any : Written d ['*'] .any
  | starStep {s : List Char} {step : Nat} (hs : Field.IsNumeral s step) (hstep : 1 ≤ step) :
      Written d ('*' :: '/' :: s) (.range d.least d.greatest step)
  | bareStep {s : List Char} {step : Nat} (hs : Field.IsNumeral s step) (hstep : 1 ≤ step) :
      Written d ('/' :: s) (.range d.least d.greatest step)
  | single {s : List Char} {n : Nat} (hs : Field.IsNumeral s n) (hn : d.admits n = true) :
      Written d s (.range n n 1)
  | ends {x y : List Char} {a b : Nat} (hx : Field.IsNumeral x a) (hy : Field.IsNumeral y b)
      (ha : d.admits a = true) (hb : d.admits b = true) :
      Written d (x ++ '-' :: y) (.range a b 1)
  | endsStep {x y s : List Char} {a b step : Nat} (hx : Field.IsNumeral x a)
      (hy : Field.IsNumeral y b) (hs : Field.IsNumeral s step) (ha : d.admits a = true)
      (hb : d.admits b = true) (hstep : 1 ≤ step) :
      Written d (x ++ '-' :: (y ++ '/' :: s)) (.range a b (if a = b then 1 else step))

theorem Field.Written.formed {d : Dimension} {token : List Char} {f : Field}
    (h : Field.Written d token f) : Field.Formed d token f := by
  cases h with
  | any => exact .any
  | starStep hs _ => exact .starStep hs
  | bareStep hs _ => exact .bareStep hs
  | single hs _ => exact .single hs
  | ends hx hy _ _ => exact .ends hx hy
  | endsStep hx hy hs _ _ hstep =>
    rw [← Field.stepped_of_pos _ _ hstep]
    exact .endsStep hx hy hs

theorem Field.isWithin_range_iff {d : Dimension} {first last step : Nat} :
    (Field.range first last step).isWithin d = true ↔
      d.admits first = true ∧ d.admits last = true := by
  rw [Field.isWithin, Bool.and_eq_true]

theorem Field.Written.isWithin {d : Dimension} {token : List Char} {f : Field}
    (h : Field.Written d token f) : f.isWithin d = true := by
  cases h with
  | any => rfl
  | starStep | bareStep => simp [Field.isWithin, d.admits_least, d.admits_greatest]
  | single _ hn => simp [Field.isWithin, hn]
  | ends _ _ ha hb => simp [Field.isWithin, ha, hb]
  | endsStep _ _ _ ha hb => simp [Field.isWithin, ha, hb]

theorem Field.Written.hasStep {d : Dimension} {token : List Char} {f : Field}
    (h : Field.Written d token f) : f.hasStep = true := by
  cases h with
  | any | single | ends => rfl
  | starStep _ hstep | bareStep _ hstep => simpa [Field.hasStep] using Nat.ne_of_gt hstep
  | endsStep _ _ _ _ _ hstep =>
    simp only [Field.hasStep, bne_iff_ne]
    split
    · exact Nat.one_ne_zero
    · exact Nat.ne_of_gt hstep

/-- **A token is written for a field if it has a form that stands for this field and the field passes
its check.** -/
theorem Field.written_iff {d : Dimension} {token : List Char} {f : Field} :
    Field.Written d token f ↔
      Field.Formed d token f ∧ f.isWithin d = true ∧ f.hasStep = true := by
  constructor
  · intro h
    exact ⟨h.formed, h.isWithin, h.hasStep⟩
  · rintro ⟨h, hwithin, hstep⟩
    cases h with
    | any => exact .any
    | starStep hs => exact .starStep hs (Nat.one_le_iff_ne_zero.2 (bne_iff_ne.1 hstep))
    | bareStep hs => exact .bareStep hs (Nat.one_le_iff_ne_zero.2 (bne_iff_ne.1 hstep))
    | single hs =>
      have hadmits := Field.isWithin_range_iff.1 hwithin
      exact .single hs hadmits.1
    | ends hx hy =>
      have hadmits := Field.isWithin_range_iff.1 hwithin
      exact .ends hx hy hadmits.1 hadmits.2
    | endsStep hx hy hs =>
      have hadmits := Field.isWithin_range_iff.1 hwithin
      have hpos := Field.one_le_of_hasStep_stepped hstep
      rw [Field.stepped_of_pos _ _ hpos]
      exact .endsStep hx hy hs hadmits.1 hadmits.2 hpos

theorem Field.Written.comma_notMem {d : Dimension} {token : List Char} {f : Field}
    (h : Field.Written d token f) : ',' ∉ token := by
  have hdigit : Char.isDigit ',' = false := by decide
  cases h with
  | any => decide
  | starStep hs | bareStep hs => simp [hs.notMem hdigit]
  | single hs => exact hs.notMem hdigit
  | ends hx hy => simp [hx.notMem hdigit, hy.notMem hdigit]
  | endsStep hx hy hs => simp [hx.notMem hdigit, hy.notMem hdigit, hs.notMem hdigit]

/-! ## Lists -/

/-- **The text is tokens with commas between them, and these stand for the fields.** -/
def Field.ListWritten (d : Dimension) (cs : List Char) (fs : List Field) : Prop :=
  ∃ tokens : List (List Char), tokens ≠ [] ∧ [','].intercalate tokens = cs ∧
    List.Forall₂ (Field.Written d) tokens fs

theorem Field.readToken_eq_ok_iff {d : Dimension} {token : List Char} {f : Field} :
    Field.readToken d token = .ok f ↔ Field.Formed d token f := by
  rw [← Field.ofToken?_eq_some_iff, Field.readToken]
  cases Field.ofToken? d token with
  | none => simp
  | some f' => simp

theorem Field.check_eq_ok_iff {d : Dimension} {f : Field} :
    Field.check d f = .ok () ↔ f.isWithin d = true ∧ f.hasStep = true := by
  unfold Field.check
  cases f.isWithin d with
  | false => simp
  | true =>
    cases f.hasStep with
    | false => simp
    | true => simp

theorem Field.checkList_eq_ok_iff {d : Dimension} {fs : List Field} :
    Field.checkList d fs = .ok () ↔ ∀ f ∈ fs, f.isWithin d = true ∧ f.hasStep = true := by
  rw [Field.checkList, forM_eq_ok_iff]
  exact forall_congr' (fun f => imp_congr_right (fun _ => Field.check_eq_ok_iff))

theorem Field.parseList_eq_ok_iff_check {d : Dimension} {cs : List Char} {fs : List Field} :
    Field.parseList d cs = .ok fs ↔
      Field.readList d cs = .ok fs ∧ Field.checkList d fs = .ok () := by
  unfold Field.parseList
  rw [bind_eq_ok_iff]
  constructor
  · rintro ⟨fs', hread, h⟩
    obtain ⟨⟨⟩, hcheck, he⟩ := bind_eq_ok_iff.1 h
    cases he
    exact ⟨hread, hcheck⟩
  · rintro ⟨hread, hcheck⟩
    exact ⟨fs, hread, bind_eq_ok_iff.2 ⟨(), hcheck, rfl⟩⟩

theorem Field.forall₂_written_iff {d : Dimension} : ∀ {tokens : List (List Char)}
    {fs : List Field}, List.Forall₂ (Field.Written d) tokens fs ↔
      List.Forall₂ (fun token f => Field.readToken d token = .ok f) tokens fs ∧
        ∀ f ∈ fs, f.isWithin d = true ∧ f.hasStep = true
  | [], fs => by
    rw [List.forall₂_nil_left_iff, List.forall₂_nil_left_iff]
    constructor
    · rintro rfl
      exact ⟨rfl, by simp⟩
    · exact And.left
  | token :: tokens, [] => by simp
  | token :: tokens, f :: fs => by
    rw [List.forall₂_cons, List.forall₂_cons, List.forall_mem_cons, Field.forall₂_written_iff,
      Field.written_iff, Field.readToken_eq_ok_iff]
    constructor
    · rintro ⟨⟨hf, hcheck⟩, hfs, hchecks⟩
      exact ⟨⟨hf, hfs⟩, hcheck, hchecks⟩
    · rintro ⟨⟨hf, hfs⟩, hcheck, hchecks⟩
      exact ⟨⟨hf, hcheck⟩, hfs, hchecks⟩

theorem Field.comma_notMem_of_forall₂ {d : Dimension} {tokens : List (List Char)}
    {fs : List Field} (h : List.Forall₂ (Field.Written d) tokens fs) :
    ∀ token ∈ tokens, ',' ∉ token := by
  intro token htoken
  obtain ⟨f, -, hw⟩ := exists_mem_of_forall₂ h token htoken
  exact hw.comma_notMem

/-- **A list is accepted as these fields if it is written for them.** -/
theorem Field.parseList_eq_ok_iff {d : Dimension} {cs : List Char} {fs : List Field} :
    Field.parseList d cs = .ok fs ↔ Field.ListWritten d cs fs := by
  rw [Field.parseList_eq_ok_iff_check, Field.readList, mapM_eq_ok_iff, Field.checkList_eq_ok_iff,
    ← Field.forall₂_written_iff]
  constructor
  · intro h
    obtain ⟨hne, -, hcs⟩ := Text.pieces_eq_iff.1 (Eq.refl (Text.pieces (· == ',') cs))
    exact ⟨_, hne, hcs, h⟩
  · rintro ⟨tokens, hne, hcs, h⟩
    have hpieces : Text.pieces (· == ',') cs = tokens :=
      Text.pieces_eq_iff.2 ⟨hne, Field.comma_notMem_of_forall₂ h, hcs⟩
    rwa [hpieces]

/-! ## Patterns -/

/-- **The text is five lists spaced by blanks**, one for each dimension of the pattern. -/
def Pattern.Written (cs : List Char) (p : Pattern) : Prop :=
  ∃ ws : List (List Char), Text.Spaced cs ws ∧
    List.Forall₂ (fun d w => Field.ListWritten d w (p.fields d)) Dimension.all ws

theorem Pattern.readLists_eq_ok_iff {ws : List (List Char)} {p : Pattern} :
    Pattern.readLists ws = .ok p ↔
      List.Forall₂ (fun d w => Field.readList d w = .ok (p.fields d)) Dimension.all ws := by
  unfold Pattern.readLists
  split
  · simp only [bind_eq_ok_iff, Dimension.all, List.forall₂_cons, Pattern.fields]
    constructor
    · rintro ⟨minutes, h₁, hours, h₂, days, h₃, months, h₄, weekdays, h₅, h⟩
      cases h
      exact ⟨h₁, h₂, h₃, h₄, h₅, .nil⟩
    · rintro ⟨h₁, h₂, h₃, h₄, h₅, -⟩
      exact ⟨_, h₁, _, h₂, _, h₃, _, h₄, _, h₅, rfl⟩
  · rename_i hfive
    constructor
    · intro h
      cases h
    · intro h
      simp only [Dimension.all, List.forall₂_cons_left_iff, List.forall₂_nil_left_iff] at h
      obtain ⟨_, _, -, ⟨_, _, -, ⟨_, _, -, ⟨_, _, -, ⟨_, _, -, rfl, rfl⟩, rfl⟩, rfl⟩, rfl⟩, rfl⟩ := h
      exact (hfive _ _ _ _ _ rfl).elim

theorem Pattern.check_eq_ok_iff {p : Pattern} :
    p.check = .ok () ↔ ∀ d ∈ Dimension.all, Field.checkList d (p.fields d) = .ok () := by
  rw [Pattern.check, forM_eq_ok_iff]

/-- **A text is accepted as a pattern if each of its words is accepted as a list of the pattern.** -/
theorem Pattern.parseText_eq_ok_iff {cs : List Char} {p : Pattern} :
    Pattern.parseText cs = .ok p ↔
      List.Forall₂ (fun d w => Field.parseList d w = .ok (p.fields d)) Dimension.all
        (Text.words cs) := by
  have hboth : (fun d w => Field.parseList d w = .ok (p.fields d)) = fun d w =>
      Field.checkList d (p.fields d) = .ok () ∧ Field.readList d w = .ok (p.fields d) := by
    funext d w
    rw [Field.parseList_eq_ok_iff_check, and_comm]
  rw [hboth, List.forall₂_and_left, ← Pattern.check_eq_ok_iff, ← Pattern.readLists_eq_ok_iff,
    Pattern.parseText, bind_eq_ok_iff]
  constructor
  · rintro ⟨q, hread, h⟩
    obtain ⟨⟨⟩, hcheck, he⟩ := bind_eq_ok_iff.1 h
    cases he
    exact ⟨hcheck, hread⟩
  · rintro ⟨hcheck, hread⟩
    exact ⟨p, hread, bind_eq_ok_iff.2 ⟨(), hcheck, rfl⟩⟩

theorem Pattern.parse_eq_ok_iff_written {s : String} {p : Pattern} :
    Pattern.parse s = .ok p ↔ Pattern.Written s.toList p := by
  rw [Pattern.parse, Pattern.parseText_eq_ok_iff, Pattern.Written]
  simp only [Field.parseList_eq_ok_iff]
  constructor
  · intro h
    exact ⟨_, Text.words_eq_iff.1 rfl, h⟩
  · rintro ⟨ws, hws, h⟩
    rwa [hws.words_eq]

/-! ## What a pattern has -/

/-- The range is within bounds, has a step of at least one, and no larger one if it is one value. -/
def Field.IsProper (d : Dimension) : Field → Prop
  | .any => True
  | .range first last step =>
    d.admits first = true ∧ d.admits last = true ∧ 1 ≤ step ∧ (first = last → step = 1)

/-- **No list is empty, and all fields are proper.** -/
def Pattern.IsProper (p : Pattern) : Prop :=
  ∀ d, p.fields d ≠ [] ∧ ∀ f ∈ p.fields d, f.IsProper d

theorem Field.Written.isProper {d : Dimension} {token : List Char} {f : Field}
    (h : Field.Written d token f) : f.IsProper d := by
  cases h with
  | any => trivial
  | starStep _ hstep | bareStep _ hstep =>
    exact ⟨d.admits_least, d.admits_greatest, hstep, fun h => absurd h d.least_ne_greatest⟩
  | single _ hn => exact ⟨hn, hn, Nat.le_refl _, fun _ => rfl⟩
  | ends _ _ ha hb => exact ⟨ha, hb, Nat.le_refl _, fun _ => rfl⟩
  | endsStep _ _ _ ha hb hstep =>
    refine ⟨ha, hb, ?_, fun hab => if_pos hab⟩
    split
    · exact Nat.le_refl _
    · exact hstep

theorem Field.ListWritten.isProper {d : Dimension} {cs : List Char} {fs : List Field}
    (h : Field.ListWritten d cs fs) : fs ≠ [] ∧ ∀ f ∈ fs, f.IsProper d := by
  obtain ⟨tokens, hne, -, h⟩ := h
  constructor
  · rintro rfl
    exact hne (List.forall₂_nil_right_iff.1 h)
  · intro f hf
    obtain ⟨token, -, hw⟩ := exists_mem_of_forall₂ h.flip f hf
    exact hw.isProper

theorem Pattern.Written.isProper {cs : List Char} {p : Pattern} (h : Pattern.Written cs p) :
    p.IsProper := by
  obtain ⟨ws, -, h⟩ := h
  intro d
  obtain ⟨w, -, hw⟩ := exists_mem_of_forall₂ h d d.mem_all
  exact hw.isProper

/-- **A text is accepted as a pattern exactly if it is written for it by the grammar**, and then
the pattern is proper. -/
theorem Pattern.parse_iff_grammar (s : String) (p : Pattern) :
    (Pattern.parse s = .ok p ↔ Pattern.Written s.toList p) ∧
      (Pattern.parse s = .ok p → p.IsProper) := by
  refine ⟨Pattern.parse_eq_ok_iff_written, fun h => ?_⟩
  exact (Pattern.parse_eq_ok_iff_written.1 h).isProper

theorem Pattern.parse_iff_grammar_allForms :
    Pattern.Written " */15,05  /2 *\t01-012/3 2-2/6,6-1".toList
      ⟨[.range 0 59 15, .range 5 5 1], [.range 0 23 2], [.any], [.range 1 12 3],
        [.range 2 2 1, .range 6 1 1]⟩ ∧
    Pattern.IsProper ⟨[.range 0 59 15, .range 5 5 1], [.range 0 23 2], [.any], [.range 1 12 3],
      [.range 2 2 1, .range 6 1 1]⟩ :=
  ⟨(Pattern.parse_iff_grammar _ _).1.1 (by rfl),
    (Pattern.parse_iff_grammar " */15,05  /2 *\t01-012/3 2-2/6,6-1" _).2 (by rfl)⟩

end Booking
