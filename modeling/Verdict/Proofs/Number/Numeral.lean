import Mathlib.Data.String.Basic
import Verdict.Number.Basic
import Verdict.Proofs.Text.CharTable
import Verdict.Proofs.Text.Trim

/-! Numerals character by character. What reads as a number is made of figures, or is one of a few
names; letters in it count the same in either case. -/

namespace Verdict.Numeral

attribute [local instance] decidableForallMem

open Text

variable {cs w ds : List Point} {c : Point}

/-! ### Stages of reading -/

theorem unpad_of_trimmed (h : Trimmed cs) : unpad cs = cs := by
  have hpadding (c : Point) (hc : isBlank c = false) : isPadding c = false := by
    simp [isPadding, hc]
  exact strip_eq_self (fun c hc => hpadding c (h.head c hc)) fun c hc => hpadding c (h.last c hc)

/-- Low lines go, all else stays. -/
theorem mem_of_ungroup {afterDigit : Bool} (h : ungroup afterDigit cs = some w) :
    ∀ c ∈ cs, c = '_' ∨ c ∈ w := by
  induction cs generalizing afterDigit w with
  | nil => simp
  | cons d cs ih =>
    rw [ungroup] at h
    by_cases hd : d = '_'
    · rw [if_pos hd] at h
      split at h
      · intro c hc
        rcases List.mem_cons.1 hc with rfl | hc
        · exact .inl hd
        · exact ih h c hc
      · cases h
    · rw [if_neg hd] at h
      obtain ⟨v, hv, rfl⟩ := Option.map_eq_some_iff.1 h
      intro c hc
      rcases List.mem_cons.1 hc with rfl | hc
      · exact .inr List.mem_cons_self
      · exact (ih hv c hc).imp_right (List.mem_cons_of_mem _)

/-- A low line stands before a digit, so where there are no digits there are none either. -/
theorem eq_of_ungroup {afterDigit : Bool} (h : ungroup afterDigit cs = some w)
    (hdigits : ∀ c ∈ w, c.isDigit = false) : cs = w := by
  induction cs generalizing afterDigit w with
  | nil => exact Option.some.inj h
  | cons d cs ih =>
    rw [ungroup] at h
    by_cases hd : d = '_'
    · rw [if_pos hd] at h
      split at h
      · next hbetween =>
        rw [Bool.and_eq_true] at hbetween
        cases cs with
        | nil => cases hbetween.2
        | cons e cs =>
          have he : e.isDigit = true := hbetween.2
          rcases mem_of_ungroup h e List.mem_cons_self with rfl | hmem
          · cases he
          · rw [hdigits e hmem] at he
            cases he
      · cases h
    · rw [if_neg hd] at h
      obtain ⟨v, hv, rfl⟩ := Option.map_eq_some_iff.1 h
      rw [ih hv fun c hc => hdigits c (List.mem_cons_of_mem _ hc)]

theorem ungroup_of_not_mem (h : .char '_' ∉ cs) (afterDigit : Bool) :
    ungroup afterDigit cs = some cs := by
  induction cs generalizing afterDigit with
  | nil => rfl
  | cons d cs ih =>
    rw [List.mem_cons, not_or] at h
    rw [ungroup, if_neg (Ne.symm h.1), ih h.2]
    rfl

/-- What a character becomes among plain digits. -/
theorem plainDigits_singleton (c : Point) : plainDigits [c] = [c] ∧ digitWorth? c = none ∨
    ∃ n < 10, digitWorth? c = some n ∧ plainDigits [c] = [.char n.digitChar] := by
  cases h : digitWorth? c with
  | none => exact .inl ⟨by simp [plainDigits, h], rfl⟩
  | some n =>
    refine .inr ⟨n, ?_, rfl, by simp [plainDigits, h]⟩
    rw [digitWorth?, Option.map_eq_some_iff] at h
    obtain ⟨z, hz, rfl⟩ := h
    have hrow := List.find?_some hz
    simp only [Bool.and_eq_true, decide_eq_true_eq] at hrow
    omega

theorem plainDigits_cons (c : Point) (cs : List Point) :
    plainDigits (c :: cs) = plainDigits [c] ++ plainDigits cs := rfl

theorem toNat_of_isDigit (h : c.isDigit = true) : 48 ≤ c.toNat ∧ c.toNat < 58 := by
  rw [Point.isDigit_iff_toNat] at h
  exact ⟨h.1, Nat.lt_succ_of_le h.2⟩

/-- A plain digit is the digit of its worth. -/
theorem digitChar_of_isDigit (h : c.isDigit = true) : (c.toNat - 48).digitChar = c := by
  obtain ⟨hlow, hhigh⟩ := toNat_of_isDigit h
  refine Point.toNat_inj.1 ?_
  rw [Point.toNat_char, Nat.toNat_digitChar_of_lt_ten (by omega)]
  omega

theorem plainDigits_of_forall (h : ∀ c ∈ cs, c.isDigit = true ∨ digitWorth? c = none) :
    plainDigits cs = cs := by
  induction cs with
  | nil => rfl
  | cons c cs ih =>
    have hc : plainDigits [c] = [c] := by
      rcases h c List.mem_cons_self with hdigit | hnone
      · simp [plainDigits, digitWorth?_of_isDigit hdigit, digitChar_of_isDigit hdigit]
      · simp [plainDigits, hnone]
    rw [plainDigits_cons, hc, ih fun d hd => h d (List.mem_cons_of_mem _ hd)]
    rfl

/-- Every character stands among plain digits as itself or as a digit. -/
theorem mem_or_isDigit_of_plainDigits (hc : c ∈ cs) :
    c ∈ plainDigits cs ∧ digitWorth? c = none ∨
      (digitWorth? c).isSome ∧ ∃ d ∈ plainDigits cs, d.isDigit = true := by
  obtain ⟨before, after, rfl⟩ := List.append_of_mem hc
  have hsub : plainDigits [c] ⊆ plainDigits (before ++ c :: after) := by
    rw [plainDigits, plainDigits, List.map_append, List.map_cons]
    simp
  rcases plainDigits_singleton c with ⟨hplain, hnone⟩ | ⟨n, hn, hsome, hplain⟩
  · exact .inl ⟨hsub (by simp [hplain]), hnone⟩
  · exact .inr ⟨by simp [hsome], n.digitChar, hsub (by simp [hplain]),
      by simp [Nat.isDigit_digitChar, hn]⟩

/-! ### Letters of either case -/

theorem toLower_cases (c : Point) :
    c.toLower = c ∨ (65 ≤ c.toNat ∧ c.toNat ≤ 90) ∧ c.toLower.toNat = c.toNat + 32 := by
  by_cases hc : c.toNat < 128
  · rw [toLower_of_plain hc]
    split
    · next hcapital =>
      exact .inr ⟨hcapital, Point.toNat_ofNat (by omega)⟩
    · exact .inl rfl
  · cases c with
    | surrogate n => exact .inl rfl
    | char c =>
      refine .inl (congrArg Point.char (dif_neg ?_))
      rintro ⟨-, hhigh⟩
      have hle : c.toNat ≤ 90 := hhigh
      rw [Point.toNat_char] at hc
      omega

/-- What comes out the same on all plain letters does not depend on case. -/
theorem comp_toLower {α : Type} {f : Point → α} {a : α}
    (h : ∀ n < 128, (65 ≤ n ∧ n ≤ 90) ∨ (97 ≤ n ∧ n ≤ 122) → f (Point.ofNat n) = a) :
    f ∘ Point.toLower = f := by
  funext c
  rcases toLower_cases c with hc | ⟨hcapital, himage⟩
  · rw [Function.comp_apply, hc]
  · have hlow := h c.toLower.toNat (by omega) (.inr (by omega))
    have hhigh := h c.toNat (by omega) (.inl hcapital)
    rw [Point.ofNat_toNat] at hlow hhigh
    rw [Function.comp_apply, hlow, hhigh]

theorem isDigit_comp_toLower : Point.isDigit ∘ Point.toLower = Point.isDigit :=
  comp_toLower (a := false) (by decide +kernel)

theorem isPadding_comp_toLower : isPadding ∘ Point.toLower = isPadding :=
  comp_toLower (a := false) (by decide +kernel)

theorem digitWorth?_comp_toLower : digitWorth? ∘ Point.toLower = digitWorth? :=
  comp_toLower (a := none) (by decide +kernel)

theorem toLower_eq_iff_of_not_letter {d : Point} (hcapital : ¬ (65 ≤ d.toNat ∧ d.toNat ≤ 90))
    (hsmall : ¬ (97 ≤ d.toNat ∧ d.toNat ≤ 122)) : c.toLower = d ↔ c = d := by
  rcases toLower_cases c with h | ⟨hc, himage⟩
  · rw [h]
  · refine iff_of_false ?_ ?_
    · rintro rfl
      omega
    · rintro rfl
      exact hcapital hc

theorem toLower_toLower (c : Point) : c.toLower.toLower = c.toLower := by
  rcases toLower_cases c with h | ⟨hc, himage⟩
  · rw [h, h]
  · rcases toLower_cases c.toLower with h | ⟨hc', -⟩
    · exact h
    · omega

theorem map_toLower_of_isDigit (h : ∀ c ∈ ds, c.isDigit = true) : ds.map Point.toLower = ds := by
  refine (List.map_congr_left fun c hc => ?_).trans ds.map_id
  rcases toLower_cases c with h' | ⟨hcapital, -⟩
  · exact h'
  · have := toNat_of_isDigit (h c hc)
    omega

theorem unpad_map_toLower (cs : List Point) :
    unpad (cs.map Point.toLower) = (unpad cs).map Point.toLower := by
  rw [unpad, unpad, List.dropWhile_map, isPadding_comp_toLower, ← List.map_reverse,
    List.dropWhile_map, isPadding_comp_toLower, ← List.map_reverse]

theorem plainDigits_map_toLower (cs : List Point) :
    plainDigits (cs.map Point.toLower) = (plainDigits cs).map Point.toLower := by
  induction cs with
  | nil => rfl
  | cons c cs ih =>
    have hworth : digitWorth? c.toLower = digitWorth? c := congrFun digitWorth?_comp_toLower c
    have hc : plainDigits [c.toLower] = (plainDigits [c]).map Point.toLower := by
      rcases plainDigits_singleton c with ⟨hplain, hnone⟩ | ⟨n, hn, hsome, hplain⟩
      · rw [hplain, List.map_singleton]
        simp [plainDigits, hworth, hnone]
      · rw [hplain, map_toLower_of_isDigit (by simp [Nat.isDigit_digitChar, hn])]
        simp [plainDigits, hworth, hsome]
    rw [List.map_cons, plainDigits_cons, hc, ih, plainDigits_cons c cs, List.map_append]

theorem ungroup_map_toLower (afterDigit : Bool) (cs : List Point) :
    ungroup afterDigit (cs.map Point.toLower) =
      (ungroup afterDigit cs).map (List.map Point.toLower) := by
  induction cs generalizing afterDigit with
  | nil => rfl
  | cons c cs ih =>
    have hnext : (cs.map Point.toLower).head?.any Point.isDigit = cs.head?.any Point.isDigit := by
      rw [List.head?_map, Option.any_map]
      exact congrArg (cs.head?.any ·) isDigit_comp_toLower
    have hc : c.toLower.isDigit = c.isDigit := congrFun isDigit_comp_toLower c
    have hline : c.toLower = '_' ↔ c = '_' := toLower_eq_iff_of_not_letter (by decide) (by decide)
    rw [List.map_cons, ungroup, ungroup, hnext, hc, ih, ih]
    simp only [hline]
    split
    · split <;> rfl
    · cases ungroup c.isDigit cs <;> rfl

theorem bare_map_toLower (cs : List Point) :
    bare (cs.map Point.toLower) = (bare cs).map (List.map Point.toLower) := by
  rw [bare, unpad_map_toLower, plainDigits_map_toLower, ungroup_map_toLower, bare]

/-- A text begins with a minus, with a plus, or with neither. -/
theorem takeSign_cases (cs : List Point) : (∃ r, cs = .char '-' :: r ∧ takeSign cs = (true, r)) ∨
    (∃ r, cs = .char '+' :: r ∧ takeSign cs = (false, r)) ∨
    (∀ c ∈ cs.head?, c ≠ '-' ∧ c ≠ '+') ∧ takeSign cs = (false, cs) := by
  unfold takeSign
  split
  · exact .inl ⟨_, rfl, rfl⟩
  · exact .inr (.inl ⟨_, rfl, rfl⟩)
  · next hminus hplus =>
    refine .inr (.inr ⟨fun c hc => ?_, rfl⟩)
    obtain ⟨r, rfl⟩ := List.head?_eq_some_iff.1 hc
    constructor
    · rintro rfl
      exact hminus r rfl
    · rintro rfl
      exact hplus r rfl

theorem takeSign_of_forall (h : ∀ c ∈ cs.head?, c ≠ '-' ∧ c ≠ '+') : takeSign cs = (false, cs) := by
  rcases takeSign_cases cs with ⟨r, rfl, -⟩ | ⟨r, rfl, -⟩ | ⟨-, hsign⟩
  · exact absurd rfl (h _ rfl).1
  · exact absurd rfl (h _ rfl).2
  · exact hsign

theorem takeSign_map_toLower (cs : List Point) :
    takeSign (cs.map Point.toLower) = ((takeSign cs).1, (takeSign cs).2.map Point.toLower) := by
  rcases takeSign_cases cs with ⟨r, rfl, -⟩ | ⟨r, rfl, -⟩ | ⟨hnone, hsign⟩
  · rfl
  · rfl
  · rw [hsign]
    refine takeSign_of_forall fun c hc => ?_
    rw [List.head?_map] at hc
    obtain ⟨d, hd, rfl⟩ := Option.map_eq_some_iff.1 hc
    obtain ⟨hminus, hplus⟩ := hnone d hd
    exact ⟨fun h => hminus ((toLower_eq_iff_of_not_letter (by decide) (by decide)).1 h),
      fun h => hplus ((toLower_eq_iff_of_not_letter (by decide) (by decide)).1 h)⟩

theorem all_isDigit_map_toLower (ds : List Point) :
    (ds.map Point.toLower).all Point.isDigit = ds.all Point.isDigit := by
  rw [List.all_map, isDigit_comp_toLower]

/-- Letters count the same in either case when an integer is read. -/
theorem readInt_map_toLower (cs : List Point) : readInt (cs.map Point.toLower) = readInt cs := by
  rw [readInt, readInt, bare_map_toLower]
  cases bare cs with
  | none => rfl
  | some w =>
    simp only [Option.map_some, takeSign_map_toLower]
    generalize takeSign w = signed
    obtain ⟨negative, ds⟩ := signed
    simp only [List.map_eq_nil_iff, all_isDigit_map_toLower, List.length_map]
    by_cases hds : ds.all Point.isDigit = true
    · rw [map_toLower_of_isDigit (List.all_eq_true.1 hds)]
    · rw [if_pos (.inr hds), if_pos (.inr hds)]

/-! ### Decimals by their parts -/

/-- The digits after a point, if there is one, and the text after them. -/
def takeFraction : List Point → List Point × List Point
  | .char '.' :: cs => takeDigits cs
  | cs => ([], cs)

theorem takeFraction_cases (cs : List Point) :
    (∃ r, cs = .char '.' :: r ∧ takeFraction cs = takeDigits r) ∨
    (∀ c ∈ cs.head?, c ≠ '.') ∧ takeFraction cs = ([], cs) := by
  unfold takeFraction
  split
  · exact .inl ⟨_, rfl, rfl⟩
  · next hpoint =>
    refine .inr ⟨fun c hc => ?_, rfl⟩
    obtain ⟨r, rfl⟩ := List.head?_eq_some_iff.1 hc
    rintro rfl
    exact hpoint r rfl

theorem readDecimal_eq (cs : List Point) : readDecimal cs =
    let whole := (takeDigits cs).1
    let (fraction, rest) := takeFraction (takeDigits cs).2
    if whole = [] ∧ fraction = [] then none
    else (readExponent rest).map fun e => ⟨worth (whole ++ fraction), e - fraction.length⟩ := by
  unfold readDecimal takeFraction
  rfl

theorem takeDigits_map_toLower (cs : List Point) : takeDigits (cs.map Point.toLower) =
    ((takeDigits cs).1, (takeDigits cs).2.map Point.toLower) := by
  rw [takeDigits, List.takeWhile_map, List.dropWhile_map, isDigit_comp_toLower, takeDigits,
    map_toLower_of_isDigit fun c hc => List.mem_takeWhile_imp hc]

theorem takeFraction_map_toLower (cs : List Point) : takeFraction (cs.map Point.toLower) =
    ((takeFraction cs).1, (takeFraction cs).2.map Point.toLower) := by
  rcases takeFraction_cases cs with ⟨r, rfl, hpoint⟩ | ⟨hnone, hpoint⟩
  · rw [hpoint, ← takeDigits_map_toLower]
    rfl
  · rcases takeFraction_cases (cs.map Point.toLower) with ⟨r, hr, -⟩ | ⟨-, hlower⟩
    · cases cs with
      | nil => cases hr
      | cons c cs =>
        rw [List.map_cons, List.cons.injEq] at hr
        exact absurd ((toLower_eq_iff_of_not_letter (by decide) (by decide)).1 hr.1) (hnone c rfl)
    · rw [hlower, hpoint]

theorem readExponent_map_toLower (cs : List Point) :
    readExponent (cs.map Point.toLower) = readExponent cs := by
  cases cs with
  | nil => rfl
  | cons e cs =>
    have he : e.toLower = 'e' ∨ e.toLower = 'E' ↔ e = 'e' ∨ e = 'E' := by
      rcases toLower_cases e with h | ⟨hcapital, himage⟩
      · rw [h]
      · constructor
        · rintro (h | h)
          · rw [h, show Point.toNat 'e' = Point.toNat 'E' + 32 from rfl] at himage
            exact .inr (Point.toNat_inj.1 (Nat.add_right_cancel himage).symm)
          · rw [h, show Point.toNat 'E' = 69 from rfl] at himage
            omega
        · rintro (rfl | rfl) <;> decide
    rw [List.map_cons, readExponent, readExponent, takeSign_map_toLower]
    simp only [he, all_isDigit_map_toLower, ne_eq, List.map_eq_nil_iff]
    split
    · next h => rw [map_toLower_of_isDigit (List.all_eq_true.1 h.2.2)]
    · rfl

theorem readDecimal_map_toLower (cs : List Point) :
    readDecimal (cs.map Point.toLower) = readDecimal cs := by
  rw [readDecimal_eq, readDecimal_eq, takeDigits_map_toLower]
  simp only [takeFraction_map_toLower, readExponent_map_toLower]

theorem readNamed_map_toLower (negative : Bool) (cs : List Point) :
    readNamed negative (cs.map Point.toLower) = readNamed negative cs := by
  have hmap : (cs.map Point.toLower).map Point.toLower = cs.map Point.toLower := by
    rw [List.map_map]
    exact List.map_congr_left fun c _ => toLower_toLower c
  rw [readNamed, readNamed, hmap]

/-- Letters count the same in either case when a double is read. -/
theorem readDouble_map_toLower (cs : List Point) :
    readDouble (cs.map Point.toLower) = readDouble cs := by
  rw [readDouble, readDouble, bare_map_toLower]
  cases bare cs with
  | none => rfl
  | some w => simp only [Option.map_some, takeSign_map_toLower, readDecimal_map_toLower,
      readNamed_map_toLower]

/-! ### What reads as a number -/

/-- What numerals with digits in them are made of. -/
def IsFigure (c : Point) : Prop := (digitWorth? c).isSome ∨ c ∈ ("_+-.eE" : Text).toList

instance : DecidablePred IsFigure := fun _ => inferInstanceAs (Decidable (_ ∨ _))

/-- The names of numbers, with a sign or without. -/
def names : List (List Point) :=
  (["inf", "infinity", "nan"] : List Text).flatMap fun name =>
    [name.toList, '+' :: name.toList, '-' :: name.toList]

theorem isFigure_of_isDigit (h : c.isDigit = true) : IsFigure c :=
  .inl (by rw [digitWorth?_of_isDigit h]; rfl)

theorem isFigure_toLower (h : IsFigure c) : IsFigure c.toLower := by
  rcases h with h | h
  · rw [← congrFun digitWorth?_comp_toLower c] at h
    exact .inl h
  · have hfigures : ∀ x ∈ ("_+-.eE" : Text).toList, x.toLower ∈ ("_+-.eE" : Text).toList := by
      decide
    exact .inr (hfigures c h)

theorem isFigure_of_takeSign (h : ∀ c ∈ (takeSign cs).2, IsFigure c) : ∀ c ∈ cs, IsFigure c := by
  rcases takeSign_cases cs with ⟨r, rfl, hsign⟩ | ⟨r, rfl, hsign⟩ | ⟨-, hsign⟩
  · rw [hsign] at h
    exact List.forall_mem_cons.2 ⟨.inr (by simp), h⟩
  · rw [hsign] at h
    exact List.forall_mem_cons.2 ⟨.inr (by simp), h⟩
  · rwa [hsign] at h

theorem isFigure_of_takeDigits (h : ∀ c ∈ (takeDigits cs).2, IsFigure c) :
    ∀ c ∈ cs, IsFigure c := by
  intro c hc
  rw [← List.takeWhile_append_dropWhile (p := Point.isDigit) (l := cs)] at hc
  rcases List.mem_append.1 hc with hc | hc
  · exact isFigure_of_isDigit (List.mem_takeWhile_imp hc)
  · exact h c hc

theorem isFigure_of_takeFraction (h : ∀ c ∈ (takeFraction cs).2, IsFigure c) :
    ∀ c ∈ cs, IsFigure c := by
  rcases takeFraction_cases cs with ⟨r, rfl, hpoint⟩ | ⟨-, hpoint⟩
  · rw [hpoint] at h
    exact List.forall_mem_cons.2 ⟨.inr (by simp), isFigure_of_takeDigits h⟩
  · rwa [hpoint] at h

theorem isFigure_of_readExponent (h : (readExponent cs).isSome) : ∀ c ∈ cs, IsFigure c := by
  cases cs with
  | nil => simp
  | cons e cs =>
    rw [readExponent] at h
    simp only [Option.isSome_ite] at h
    obtain ⟨he, -, hdigits⟩ := h
    have hds := fun c hc => isFigure_of_isDigit (List.all_eq_true.1 hdigits c hc)
    refine List.forall_mem_cons.2 ⟨.inr ?_, isFigure_of_takeSign hds⟩
    rcases he with rfl | rfl <;> simp

theorem isFigure_of_readDecimal (h : (readDecimal cs).isSome) : ∀ c ∈ cs, IsFigure c := by
  rw [readDecimal_eq] at h
  dsimp only at h
  split at h
  · cases h
  · rw [Option.isSome_map] at h
    exact isFigure_of_takeDigits (isFigure_of_takeFraction (isFigure_of_readExponent h))

/-- A bare numeral of figures has come from figures. -/
theorem isFigure_of_bare (hcs : Trimmed cs) (hbare : bare cs = some w) (h : ∀ c ∈ w, IsFigure c) :
    ∀ c ∈ cs, IsFigure c := by
  rw [bare, unpad_of_trimmed hcs] at hbare
  intro c hc
  rcases mem_or_isDigit_of_plainDigits hc with ⟨hplain, -⟩ | ⟨hdigit, -⟩
  · rcases mem_of_ungroup hbare c hplain with rfl | hw
    · exact .inr (by simp)
    · exact h c hw
  · exact .inl hdigit

/-- A bare numeral without digits is the text it has come from. -/
theorem eq_of_bare (hcs : Trimmed cs) (hbare : bare cs = some w)
    (h : ∀ c ∈ w, c.isDigit = false) : cs = w := by
  rw [bare, unpad_of_trimmed hcs] at hbare
  have hw : plainDigits cs = w := eq_of_ungroup hbare h
  rw [← hw]
  refine (plainDigits_of_forall fun c hc => ?_).symm
  rcases mem_or_isDigit_of_plainDigits hc with ⟨-, hnone⟩ | ⟨-, d, hd, hdigit⟩
  · exact .inr hnone
  · rw [hw] at hd
    rw [h d hd] at hdigit
    cases hdigit

theorem readNamed_isSome {negative : Bool} (h : (readNamed negative cs).isSome) :
    cs.map Point.toLower = ("inf" : Text).toList ∨
      cs.map Point.toLower = ("infinity" : Text).toList ∨
      cs.map Point.toLower = ("nan" : Text).toList := by
  rw [readNamed] at h
  split at h
  · next hname => exact hname.imp (congrArg Text.toList) fun h => .inl (congrArg Text.toList h)
  · split at h
    · next hname => exact .inr (.inr (congrArg Text.toList hname))
    · cases h

/-- A numeral is made of figures, or it is a name in letters of either case. -/
theorem isFigure_or_mem_names (hcs : Trimmed cs)
    (h : (∃ n, readInt cs = .ok n) ∨ (readDouble cs).isSome) :
    (∀ c ∈ cs, IsFigure c) ∨ cs.map Point.toLower ∈ names := by
  rw [readInt, readDouble] at h
  cases hbare : bare cs with
  | none => simp [hbare] at h
  | some w =>
    simp only [hbare, Option.map_some] at h
    rcases h with ⟨n, h⟩ | h
    · refine .inl (isFigure_of_bare hcs hbare (isFigure_of_takeSign fun c hc => ?_))
      split at h
      · cases h
      · next hdigits =>
        rw [not_or, not_not, List.all_eq_true] at hdigits
        exact isFigure_of_isDigit (hdigits.2 c hc)
    · split at h
      · next hdecimal =>
        exact .inl (isFigure_of_bare hcs hbare (isFigure_of_takeSign
          (isFigure_of_readDecimal (by rw [hdecimal]; rfl))))
      · have hname : w.map Point.toLower ∈ names := by
          have hr := readNamed_isSome h
          rcases takeSign_cases w with ⟨r, rfl, hsign⟩ | ⟨r, rfl, hsign⟩ | ⟨-, hsign⟩ <;>
            rw [hsign] at hr <;> rcases hr with hr | hr | hr <;> simp [names, hr]
        have hletters : ∀ name ∈ names, ∀ c ∈ name, c.isDigit = false := by decide
        have hw : cs = w := eq_of_bare hcs hbare fun c hc => by
          rw [← congrFun isDigit_comp_toLower c]
          exact hletters _ hname _ (List.mem_map_of_mem hc)
        exact .inr (hw ▸ hname)

end Verdict.Numeral

namespace Verdict.Number

open Text

/-- Texts that differ in blanks around them and in the case of plain letters read alike. -/
theorem read?_congr {s t : List Point}
    (h : (trim s).map Point.toLower = (trim t).map Point.toLower) : read? s = read? t := by
  have hint : Numeral.readInt (trim s) = Numeral.readInt (trim t) := by
    rw [← Numeral.readInt_map_toLower, h, Numeral.readInt_map_toLower]
  have hdouble : Numeral.readDouble (trim s) = Numeral.readDouble (trim t) := by
    rw [← Numeral.readDouble_map_toLower, h, Numeral.readDouble_map_toLower]
  rw [read?, read?, hint, hdouble]

/-- What reads as a number is made of figures, or it is a name in letters of either case. -/
theorem isFigure_or_mem_names {s : List Point} (h : (read? s).isSome) :
    (∀ c ∈ trim s, Numeral.IsFigure c) ∨ (trim s).map Point.toLower ∈ Numeral.names := by
  refine Numeral.isFigure_or_mem_names (trimmed_trim s) ?_
  rw [read?] at h
  cases hint : Numeral.readInt (trim s) with
  | ok n => exact .inl ⟨n, rfl⟩
  | error e =>
    simp only [hint, Option.isSome_map] at h
    exact .inr h

end Verdict.Number
