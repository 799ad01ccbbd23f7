import Booking.Proofs.Recurrence.Grammar
/-!
# Faults of patterns

A text may have many faults at once, and one of them is reported. In one list the leftmost malformed
token comes first, and without one the leftmost field that has a fault (`Field.parseList_eq_error_iff`).
A pattern reads all its lists before it checks any, so it reports the first list with a malformed token,
and without one the first list that is refused at all (`Pattern.parse_reports_first_fault`).
-/
namespace Booking

/-! ## One field -/

/-- **What is wrong with a field that was read**: an end out of bounds, or, with both within them, a step
of zero. The field is shown in its canonical text. -/
inductive Field.Fault (d : Dimension) : Field → PatternError → Prop where
  | outOfBounds {first last step : Nat} (h : d.admits first = false ∨ d.admits last = false) :
      Fault d (.range first last step)
        (.outOfBounds d (String.ofList (Field.range first last step).text))
  | zeroStep {first last : Nat} (hfirst : d.admits first = true) (hlast : d.admits last = true) :
      Fault d (.range first last 0) (.zeroStep d (String.ofList (Field.range first last 0).text))

theorem Field.check_eq_error_iff {d : Dimension} {f : Field} {e : PatternError} :
    Field.check d f = .error e ↔ Field.Fault d f e := by
  constructor
  · intro h
    cases f with
    | any => cases h
    | range first last step =>
      unfold Field.check at h
      split at h
      · rename_i hwithin
        cases h
        have hout : (Field.range first last step).isWithin d = false := by simpa using hwithin
        rw [Field.isWithin, Bool.and_eq_false_iff] at hout
        exact .outOfBounds hout
      rename_i hwithin
      split at h
      · rename_i hstep
        cases h
        obtain rfl : step = 0 := by simpa [Field.hasStep] using hstep
        have hadmits := Field.isWithin_range_iff.1 (by simpa using hwithin)
        exact .zeroStep hadmits.1 hadmits.2
      · cases h
  · intro h
    cases h with
    | outOfBounds h => simp [Field.check, Field.isWithin, Bool.and_eq_false_iff.2 h]
    | zeroStep hfirst hlast => simp [Field.check, Field.isWithin, Field.hasStep, hfirst, hlast]

/-! ## One list -/

/-- The error is about the form of a token, and not about a field. -/
def PatternError.IsMalformed (e : PatternError) : Prop := ∃ d token, e = .malformed d token

/-- **What is wrong with a list**: its leftmost malformed token, shown as it was written, or, if all its
tokens have a form, the fault of its leftmost field that has one. -/
inductive Field.ListFault (d : Dimension) (cs : List Char) : PatternError → Prop where
  | malformed {pre post : List (List Char)} {token : List Char}
      (hcs : Text.pieces (· == ',') cs = pre ++ token :: post)
      (hpre : ∀ token' ∈ pre, ∃ f, Field.Formed d token' f) (htoken : ∀ f, ¬ Field.Formed d token f) :
      ListFault d cs (.malformed d (String.ofList token))
  | faulty {pre post : List Field} {f : Field} {e : PatternError}
      (hcs : List.Forall₂ (Field.Formed d) (Text.pieces (· == ',') cs) (pre ++ f :: post))
      (hpre : ∀ f' ∈ pre, ∀ e', ¬ Field.Fault d f' e') (hf : Field.Fault d f e) :
      ListFault d cs e

section

variable {d : Dimension} {token cs : List Char} {f : Field} {fs : List Field} {e : PatternError}

theorem Field.Fault.not_isMalformed (h : Field.Fault d f e) : ¬ e.IsMalformed := by
  rintro ⟨d', token, he⟩
  cases h <;> cases he

theorem Field.readToken_eq_error_iff :
    Field.readToken d token = .error e ↔
      (∀ f, ¬ Field.Formed d token f) ∧ e = .malformed d (String.ofList token) := by
  simp only [← Field.ofToken?_eq_some_iff, Field.readToken]
  cases Field.ofToken? d token with
  | none => simp [eq_comm]
  | some f => simp

theorem Field.exists_formed_iff :
    (∃ f, Field.Formed d token f) ↔
      ∀ e, Field.readToken d token = .error e → ¬ e.IsMalformed := by
  simp only [Field.readToken_eq_error_iff]
  constructor
  · rintro ⟨f, hf⟩ e ⟨h, -⟩
    exact absurd hf (h f)
  · intro h
    by_contra hnone
    exact h _ ⟨not_exists.1 hnone, rfl⟩ ⟨d, _, rfl⟩

theorem Field.isMalformed_of_readToken (h : Field.readToken d token = .error e) : e.IsMalformed :=
  ⟨d, _, (Field.readToken_eq_error_iff.1 h).2⟩

theorem Field.readList_eq_error_iff :
    Field.readList d cs = .error e ↔
      FailsFirst (Field.readToken d) PatternError.IsMalformed (Text.pieces (· == ',') cs) e :=
  mapM_eq_error_iff _ (fun _ _ _ => Field.isMalformed_of_readToken)

theorem Field.isMalformed_of_readList (h : Field.readList d cs = .error e) : e.IsMalformed := by
  obtain ⟨_, -, -, h⟩ := (Field.readList_eq_error_iff.1 h).exists_mem
  exact h

theorem Field.checkList_eq_error_iff :
    Field.checkList d fs = .error e ↔
      ∃ pre f post, fs = pre ++ f :: post ∧ (∀ f' ∈ pre, ∀ e', ¬ Field.Fault d f' e') ∧
        Field.Fault d f e := by
  rw [Field.checkList, forM_eq_error_iff (fun _ => True) (fun _ _ _ _ => trivial)]
  simp only [FailsFirst, Field.check_eq_error_iff, not_true_eq_false, imp_false, and_true]

/-- A list is refused as it is read, with a malformed token, or as its fields are checked. -/
theorem Field.parseList_eq_error_iff_check :
    Field.parseList d cs = .error e ↔
      Field.readList d cs = .error e ∨
        ∃ fs, Field.readList d cs = .ok fs ∧ Field.checkList d fs = .error e := by
  simp [Field.parseList, bind_eq_error_iff, pure, Except.pure]

/-- **A list is refused exactly for its fault.** -/
theorem Field.parseList_eq_error_iff : Field.parseList d cs = .error e ↔ Field.ListFault d cs e := by
  rw [Field.parseList_eq_error_iff_check, Field.readList_eq_error_iff]
  constructor
  · rintro (⟨pre, token, post, hcs, hpre, htoken, -⟩ | ⟨fs, hread, hcheck⟩)
    · obtain ⟨hnone, rfl⟩ := Field.readToken_eq_error_iff.1 htoken
      exact .malformed hcs (fun t ht => Field.exists_formed_iff.2 (hpre t ht)) hnone
    · obtain ⟨pre, f, post, rfl, hpre, hf⟩ := Field.checkList_eq_error_iff.1 hcheck
      have hformed := (mapM_eq_ok_iff.1 hread).imp (fun _ _ => Field.readToken_eq_ok_iff.1)
      exact .faulty hformed hpre hf
  · intro h
    cases h with
    | malformed hcs hpre htoken =>
      exact .inl ⟨_, _, _, hcs, fun t ht => Field.exists_formed_iff.1 (hpre t ht),
        Field.readToken_eq_error_iff.2 ⟨htoken, rfl⟩, d, _, rfl⟩
    | faulty hcs hpre hf =>
      have hread := mapM_eq_ok_iff.2 (hcs.imp (fun _ _ => Field.readToken_eq_ok_iff.2))
      exact .inr ⟨_, hread, Field.checkList_eq_error_iff.2 ⟨_, _, _, rfl, hpre, hf⟩⟩

/-- Checking adds no malformed token to those that reading finds. -/
theorem Field.readList_eq_error_iff_isMalformed :
    Field.readList d cs = .error e ↔ Field.parseList d cs = .error e ∧ e.IsMalformed := by
  rw [Field.parseList_eq_error_iff_check]
  constructor
  · intro h
    exact ⟨.inl h, Field.isMalformed_of_readList h⟩
  · rintro ⟨h | ⟨fs, -, hcheck⟩, he⟩
    · exact h
    · obtain ⟨_, _, _, -, -, hf⟩ := Field.checkList_eq_error_iff.1 hcheck
      exact absurd he hf.not_isMalformed

end

/-! ## Patterns -/

/-- **The first list that is refused with an error of this kind is refused with `e`.** -/
def Pattern.RefusesFirst (ws : List (List Char)) (kind : PatternError → Prop) (e : PatternError) :
    Prop :=
  FailsFirst (fun q : Dimension × List Char => Field.parseList q.1 q.2) kind (Dimension.all.zip ws) e

/-- Reading the five lists fails at the first with a malformed token, also behind lists that would not
pass their check. -/
theorem Pattern.readLists_eq_error_iff {ws : List (List Char)} (h : ws.length = 5)
    {e : PatternError} :
    Pattern.readLists ws = .error e ↔ Pattern.RefusesFirst ws PatternError.IsMalformed e := by
  have hread : Pattern.readLists ws = .error e ↔
      (Dimension.all.zip ws).mapM (fun q => Field.readList q.1 q.2) = .error e := by
    match ws, h with
    | [w₀, w₁, w₂, w₃, w₄], _ =>
      simp [Pattern.readLists, Dimension.all, bind_eq_error_iff, pure, Except.pure]
  rw [hread, mapM_eq_error_iff PatternError.IsMalformed (fun _ _ _ => Field.isMalformed_of_readList)]
  refine failsFirst_congr (fun q _ e => ?_)
  rw [Field.readList_eq_error_iff_isMalformed, and_assoc, and_self]

/-- Once all lists are read, checking the pattern fails as its lists do one by one. -/
theorem Pattern.check_eq_error_iff {ws : List (List Char)} {p : Pattern} {e : PatternError}
    (h : Pattern.readLists ws = .ok p) :
    p.check = .error e ↔ Pattern.RefusesFirst ws (fun _ => True) e := by
  have hlists := Pattern.readLists_eq_ok_iff.1 h
  have hall : Dimension.all = (Dimension.all.zip ws).map Prod.fst :=
    (List.map_fst_zip (Nat.le_of_eq hlists.length_eq)).symm
  rw [Pattern.check, hall, List.forM_eq_forM, List.forM_map, ← List.forM_eq_forM,
    forM_eq_error_iff (fun _ => True) (fun _ _ _ _ => trivial)]
  refine failsFirst_congr (fun q hq e => ?_)
  have hread : Field.readList q.1 q.2 = .ok (p.fields q.1) := (List.forall₂_iff_zip.1 hlists).2 hq
  rw [Field.parseList_eq_error_iff_check]
  simp [hread]

theorem Pattern.readLists_of_length_ne {ws : List (List Char)} (h : ws.length ≠ 5) :
    Pattern.readLists ws = .error (.fieldCount ws.length) := by
  unfold Pattern.readLists
  split
  · exact absurd rfl h
  · rfl

/-- The lists can be read if none of them has a malformed token. -/
theorem Pattern.exists_readLists_iff {ws : List (List Char)} (h : ws.length = 5) :
    (∃ p, Pattern.readLists ws = .ok p) ↔
      ∀ q ∈ Dimension.all.zip ws, ∀ e, Field.parseList q.1 q.2 = .error e → ¬ e.IsMalformed := by
  constructor
  · rintro ⟨p, hread⟩ q hq e he hmalformed
    obtain ⟨e', hfirst⟩ : ∃ e', Pattern.RefusesFirst ws PatternError.IsMalformed e' :=
      exists_failsFirst_iff.2 ⟨q, hq, e, he, hmalformed⟩
    rw [(Pattern.readLists_eq_error_iff h).2 hfirst] at hread
    cases hread
  · intro hnone
    cases hread : Pattern.readLists ws with
    | ok p => exact ⟨p, rfl⟩
    | error e =>
      obtain ⟨q, hq, he, hmalformed⟩ := ((Pattern.readLists_eq_error_iff h).1 hread).exists_mem
      exact absurd hmalformed (hnone q hq e he)

theorem Pattern.parse_eq_error_iff {s : String} {ws : List (List Char)}
    (hws : Text.Spaced s.toList ws) (h : ws.length = 5) {e : PatternError} :
    Pattern.parse s = .error e ↔
      Pattern.RefusesFirst ws PatternError.IsMalformed e ∨
        (∀ q ∈ Dimension.all.zip ws, ∀ e', Field.parseList q.1 q.2 = .error e' →
          ¬ e'.IsMalformed) ∧
        Pattern.RefusesFirst ws (fun _ => True) e := by
  rw [Pattern.parse, Pattern.parseText, hws.words_eq, bind_eq_error_iff,
    Pattern.readLists_eq_error_iff h, ← Pattern.exists_readLists_iff h, ← exists_and_right]
  refine or_congr Iff.rfl (exists_congr (fun p => and_congr_right (fun hread => ?_)))
  rw [← Pattern.check_eq_error_iff hread]
  simp [bind_eq_error_iff, pure, Except.pure]

/-- **A pattern is accepted exactly if its five lists are, as these, and otherwise it reports the first
malformed token of all lists, and without one the first fault of a field.** A wrong number of words is
reported whatever they are, and a number out of bounds together with the bounds. -/
theorem Pattern.parse_reports_first_fault {s : String} {ws : List (List Char)}
    (hws : Text.Spaced s.toList ws) :
    (ws.length ≠ 5 → Pattern.parse s = .error (.fieldCount ws.length)) ∧
    (ws.length = 5 →
      ((∃ p, Pattern.parse s = .ok p) ↔
        ∀ q ∈ Dimension.all.zip ws, ∃ fs, Field.parseList q.1 q.2 = .ok fs) ∧
      (∀ p, Pattern.parse s = .ok p ↔
        List.Forall₂ (fun d w => Field.parseList d w = .ok (p.fields d)) Dimension.all ws) ∧
      ∀ e, Pattern.parse s = .error e ↔
        Pattern.RefusesFirst ws PatternError.IsMalformed e ∨
          (∀ q ∈ Dimension.all.zip ws, ∀ e', Field.parseList q.1 q.2 = .error e' →
            ¬ e'.IsMalformed) ∧
          Pattern.RefusesFirst ws (fun _ => True) e) ∧
    (∀ d cs e, Field.parseList d cs = .error e ↔ Field.ListFault d cs e) ∧
    ∀ d text, (PatternError.outOfBounds d text).message =
      "invalid range " ++ text ++ " for " ++ d.name ++
        s!" (valid values: {d.least}-{d.greatest})" := by
  have hok : ∀ p, Pattern.parse s = .ok p ↔
      List.Forall₂ (fun d w => Field.parseList d w = .ok (p.fields d)) Dimension.all ws := by
    intro p
    rw [Pattern.parse, Pattern.parseText_eq_ok_iff, hws.words_eq]
  refine ⟨fun h => ?_, fun h => ⟨⟨?_, fun hall => ?_⟩, hok, fun e => ?_⟩,
    fun d cs e => Field.parseList_eq_error_iff, fun d text => rfl⟩
  · rw [Pattern.parse, Pattern.parseText, hws.words_eq, Pattern.readLists_of_length_ne h]
    rfl
  · rintro ⟨p, hp⟩ q hq
    exact ⟨_, (List.forall₂_iff_zip.1 ((hok p).1 hp)).2 hq⟩
  · cases hp : Pattern.parse s with
    | ok p => exact ⟨p, rfl⟩
    | error e =>
      -- one of the lists is refused
      have hsome : ∃ q ∈ Dimension.all.zip ws, ∃ e', Field.parseList q.1 q.2 = .error e' := by
        rcases (Pattern.parse_eq_error_iff hws h).1 hp with hfirst | ⟨-, hfirst⟩
        all_goals
          obtain ⟨q, hq, he, -⟩ := hfirst.exists_mem
          exact ⟨q, hq, e, he⟩
      obtain ⟨q, hq, e', he⟩ := hsome
      obtain ⟨fs, hfs⟩ := hall q hq
      rw [he] at hfs
      cases hfs
  · exact Pattern.parse_eq_error_iff hws h

theorem Pattern.parse_reports_first_fault_lateToken :
    Pattern.parse "* * * *" = .error (.fieldCount 4) ∧
    Pattern.parse "99 /0 * x,y 1-" = .error (.malformed .month "x") ∧
    Pattern.parse "* 5-1/0,24 * * /0" = .error (.zeroStep .hour "5-1/0") ∧
    Field.ListFault .hour "*,030-1/0".toList (.outOfBounds .hour "30-1/0") := by
  have hfour : Text.Spaced "* * * *".toList [['*'], ['*'], ['*'], ['*']] :=
    Text.words_eq_iff.1 (by rfl)
  have htoken : Text.Spaced "99 /0 * x,y 1-".toList
      ["99".toList, "/0".toList, ['*'], "x,y".toList, "1-".toList] :=
    Text.words_eq_iff.1 (by rfl)
  have hfield : Text.Spaced "* 5-1/0,24 * * /0".toList
      [['*'], "5-1/0,24".toList, ['*'], ['*'], "/0".toList] :=
    Text.words_eq_iff.1 (by rfl)
  refine ⟨(Pattern.parse_reports_first_fault hfour).1 (by decide), ?_, ?_,
    ((Pattern.parse_reports_first_fault hfour).2.2.1 _ _ _).1 (by rfl)⟩
  · refine (((Pattern.parse_reports_first_fault htoken).2.1 rfl).2.2 _).2 (.inl ?_)
    refine ⟨[(.minute, "99".toList), (.hour, "/0".toList), (.dayOfMonth, ['*'])],
      (.month, "x,y".toList), [(.dayOfWeek, "1-".toList)], rfl, ?_, by rfl, .month, "x", rfl⟩
    rintro q hq e he ⟨d, token, rfl⟩
    simp only [List.mem_cons, List.not_mem_nil, or_false] at hq
    rcases hq with rfl | rfl | rfl <;> cases he
  · refine (((Pattern.parse_reports_first_fault hfield).2.1 rfl).2.2 _).2 (.inr ⟨?_, ?_⟩)
    · rintro q hq e he ⟨d, token, rfl⟩
      simp only [Dimension.all, List.zip_cons_cons, List.zip_nil_left, List.mem_cons,
        List.not_mem_nil, or_false] at hq
      rcases hq with rfl | rfl | rfl | rfl | rfl <;> cases he
    · refine ⟨[(.minute, ['*'])], (.hour, "5-1/0,24".toList), _, rfl, ?_, by rfl, trivial⟩
      intro q hq e he _
      obtain rfl := List.mem_singleton.1 hq
      cases he

end Booking
