import Mathlib.Tactic.FieldSimp
import Verdict.Proofs.Number.Numeral
import Verdict.Proofs.Number.Rounding
import Verdict.Proofs.Text.Unit

/-! Numbers written out and read again. The text of a decimal, in whichever layout, reads as a
decimal of the same worth, and the text of a double as that double. -/

namespace Verdict

attribute [local instance] powOfNatPow decidableForallMem

/-! ### Digits -/

namespace Numeral

variable {cs ds : List Point}

theorem worth_map_char (cs : List Char) : worth (cs.map .char) = Nat.ofDigitChars 10 cs 0 := by
  rw [worth, List.foldl_map, Nat.ofDigitChars_eq_foldl]
  rfl

theorem worth_toDigits (n : Nat) : worth (Text.toDigits 10 n) = n := by
  rw [Text.toDigits, worth_map_char, Nat.ofDigitChars_toDigits (by decide) (by decide)]

theorem foldl_worth (n : Nat) (ds : List Point) :
    ds.foldl (fun n d => 10 * n + (d.toNat - '0'.toNat)) n = n * 10 ^ ds.length + worth ds := by
  induction ds generalizing n with
  | nil => simp [worth]
  | cons d ds ih =>
    have hcons : worth (d :: ds) = (10 * 0 + (d.toNat - '0'.toNat)) * 10 ^ ds.length + worth ds :=
      ih _
    rw [List.foldl_cons, ih, hcons, List.length_cons, Nat.pow_succ]
    ring

theorem worth_append (as bs : List Point) :
    worth (as ++ bs) = worth as * 10 ^ bs.length + worth bs := by
  have h := foldl_worth (worth as) bs
  rwa [worth, ← List.foldl_append] at h

theorem worth_replicate_zero (n : Nat) : worth (List.replicate n (.char '0')) = 0 := by
  rw [← List.map_replicate, worth_map_char, Nat.ofDigitChars_replicate_zero, Nat.mul_zero]

theorem takeDigits_append (hds : ∀ c ∈ ds, c.isDigit = true)
    (hcs : ∀ c ∈ cs.head?, c.isDigit = false) : takeDigits (ds ++ cs) = (ds, cs) := by
  rw [takeDigits, Text.takeWhile_append_of_head hds hcs, Text.dropWhile_append_of_head hds hcs]

theorem worth_zeros_append (n : Nat) (ds : List Point) :
    worth (List.replicate n (.char '0') ++ ds) = worth ds := by
  rw [worth_append, worth_replicate_zero, Nat.zero_mul, Nat.zero_add]

theorem worth_append_zeros (ds : List Point) (n : Nat) :
    worth (ds ++ List.replicate n (.char '0')) = worth ds * 10 ^ n := by
  rw [worth_append, worth_replicate_zero, List.length_replicate, Nat.add_zero]

theorem isDigit_of_mem_zeros_append {n : Nat} {c : Point} (hds : ∀ c ∈ ds, c.isDigit = true)
    (h : c ∈ List.replicate n (.char '0') ++ ds) : c.isDigit = true := by
  rcases List.mem_append.1 h with h | h
  · rw [List.eq_of_mem_replicate h]
    rfl
  · exact hds c h

theorem isDigit_of_mem_append_zeros {n : Nat} {c : Point} (hds : ∀ c ∈ ds, c.isDigit = true)
    (h : c ∈ ds ++ List.replicate n (.char '0')) : c.isDigit = true :=
  isDigit_of_mem_zeros_append (n := n) hds (by rwa [List.mem_append, or_comm, ← List.mem_append])

theorem applySign_natAbs (n : Int) : applySign (n < 0) n.natAbs = n := by
  by_cases h : n < 0
  · simp only [applySign, h, decide_true, if_true]
    omega
  · simp only [applySign, h, decide_false, Bool.false_eq_true, if_false]
    omega

theorem readExponent_exponentText (width : Nat) (e : Int) :
    readExponent (Decimal.exponentText width e) = some e := by
  have hsign (ds : List Point) :
      takeSign ((if e < 0 then '-' else '+') :: ds) = (decide (e < 0), ds) := by
    by_cases he : e < 0 <;> simp [he, takeSign]
  rw [Decimal.exponentText, readExponent, hsign]
  dsimp only
  generalize width - (Text.toDigits 10 e.natAbs).length = n
  have hworth := worth_zeros_append n (Text.toDigits 10 e.natAbs)
  have hne : List.replicate n (.char '0') ++ Text.toDigits 10 e.natAbs ≠ [] :=
    List.append_ne_nil_of_right_ne_nil _ Text.toDigits_ne_nil
  have hdigits :
      (List.replicate n (Point.char '0') ++ Text.toDigits 10 e.natAbs).all Point.isDigit = true :=
    List.all_eq_true.2 fun c hc =>
      isDigit_of_mem_zeros_append (fun _ => Text.isDigit_of_mem_toDigits) hc
  rw [if_pos ⟨.inl rfl, hne, hdigits⟩, hworth, worth_toDigits, applySign_natAbs]

/-- A decimal reads by its parts: digits, a point and digits or neither, and an exponent. -/
theorem readDecimal_of_parts {whole fraction rest : List Point} {e : Int}
    (hcs : takeDigits cs = (whole, ds)) (hds : takeFraction ds = (fraction, rest))
    (hne : whole ≠ []) (he : readExponent rest = some e) :
    readDecimal cs = some ⟨worth (whole ++ fraction), e - fraction.length⟩ := by
  rw [readDecimal_eq, hcs]
  dsimp only
  rw [hds]
  dsimp only
  rw [if_neg (fun h => hne h.1), he]
  rfl

end Numeral

section Layouts

variable {ds : List Point} (hds : ∀ c ∈ ds, c.isDigit = true)

include hds

namespace Numeral

theorem takeDigits_of_forall : takeDigits ds = (ds, []) := by
  rw [takeDigits, List.takeWhile_eq_self_iff.2 hds, List.dropWhile_eq_nil_iff.2 hds]

/-- Digits behind the point, with zeros in between. -/
theorem readDecimal_behind_point (n : Nat) :
    readDecimal ('0' :: '.' :: (List.replicate n (.char '0') ++ ds)) =
      some ⟨worth ds, -(n + ds.length : Int)⟩ := by
  have hwhole : takeDigits (.char '0' :: .char '.' :: (List.replicate n (.char '0') ++ ds)) =
      ([.char '0'], .char '.' :: (List.replicate n (.char '0') ++ ds)) := rfl
  have hfraction : takeFraction ('.' :: (List.replicate n (.char '0') ++ ds)) =
      (List.replicate n (.char '0') ++ ds, []) :=
    takeDigits_of_forall fun _ => isDigit_of_mem_zeros_append hds
  have hworth : worth ([Point.char '0'] ++ (List.replicate n (.char '0') ++ ds)) = worth ds :=
    worth_zeros_append (n + 1) ds
  rw [readDecimal_of_parts hwhole hfraction (by simp) rfl, hworth]
  simp

/-- Digits with a point among them. -/
theorem readDecimal_around_point {n : Nat} (hpos : 0 < n) (hlength : n < ds.length) :
    readDecimal (ds.take n ++ .char '.' :: ds.drop n) = some ⟨worth ds, n - ds.length⟩ := by
  have hwhole : takeDigits (ds.take n ++ .char '.' :: ds.drop n) =
      (ds.take n, .char '.' :: ds.drop n) :=
    takeDigits_append (fun c hc => hds c (List.mem_of_mem_take hc)) (by rintro _ ⟨⟩; rfl)
  have hfraction : takeFraction ('.' :: ds.drop n) = (ds.drop n, []) :=
    takeDigits_of_forall fun c hc => hds c (List.mem_of_mem_drop hc)
  have hne : ds.take n ≠ [] := by
    rw [ne_eq, List.take_eq_nil_iff]
    rintro (rfl | rfl)
    · exact absurd hpos (Nat.lt_irrefl 0)
    · exact absurd hlength (Nat.not_lt_zero n)
  rw [readDecimal_of_parts hwhole hfraction hne rfl, List.take_append_drop, List.length_drop,
    Nat.cast_sub hlength.le]
  simp

/-- Digits before the point, with zeros behind them. -/
theorem readDecimal_before_point (hne : ds ≠ []) (n : Nat) :
    readDecimal (ds ++ List.replicate n (.char '0') ++ [.char '.', .char '0']) =
      some ⟨worth ds * 10 ^ (n + 1), -1⟩ := by
  have hwhole : takeDigits (ds ++ List.replicate n (.char '0') ++ [.char '.', .char '0']) =
      (ds ++ List.replicate n (.char '0'), [.char '.', .char '0']) :=
    takeDigits_append (fun _ => isDigit_of_mem_append_zeros hds) (by rintro _ ⟨⟩; rfl)
  have hfraction : takeFraction [.char '.', .char '0'] = ([.char '0'], []) := rfl
  have hworth : worth (ds ++ List.replicate n (.char '0') ++ [.char '0']) =
      worth ds * 10 ^ (n + 1) := by
    rw [List.append_assoc, ← List.replicate_succ', worth_append_zeros]
  rw [readDecimal_of_parts hwhole hfraction (List.append_ne_nil_of_left_ne_nil hne _) rfl, hworth]
  rfl

end Numeral

end Layouts

namespace Numeral

/-- One digit and an exponent. -/
theorem readDecimal_digit_with_exponent {d : Point} (hd : d.isDigit = true) (width : Nat)
    (e : Int) :
    readDecimal (d :: Decimal.exponentText width e) = some ⟨worth [d], e⟩ := by
  have hdigits : ∀ c ∈ [d], c.isDigit = true := by simpa using hd
  have hwhole : takeDigits (d :: Decimal.exponentText width e) =
      ([d], Decimal.exponentText width e) := takeDigits_append hdigits (by rintro _ ⟨⟩; rfl)
  have hfraction : takeFraction (Decimal.exponentText width e) =
      ([], Decimal.exponentText width e) := rfl
  rw [readDecimal_of_parts hwhole hfraction (by simp) (readExponent_exponentText width e)]
  simp

/-- Several digits with a point behind the first, and an exponent. -/
theorem readDecimal_with_exponent {d : Point} {ds : List Point} (hd : d.isDigit = true)
    (hds : ∀ c ∈ ds, c.isDigit = true) (width : Nat) (e : Int) :
    readDecimal (d :: '.' :: (ds ++ Decimal.exponentText width e)) =
      some ⟨worth (d :: ds), e - ds.length⟩ := by
  have hdigits : ∀ c ∈ [d], c.isDigit = true := by simpa using hd
  have hwhole : takeDigits (d :: '.' :: (ds ++ Decimal.exponentText width e)) =
      ([d], .char '.' :: (ds ++ Decimal.exponentText width e)) :=
    takeDigits_append hdigits (by rintro _ ⟨⟩; rfl)
  have hfraction : takeFraction ('.' :: (ds ++ Decimal.exponentText width e)) =
      (ds, Decimal.exponentText width e) := takeDigits_append hds (by rintro _ ⟨⟩; rfl)
  rw [readDecimal_of_parts hwhole hfraction (by simp) (readExponent_exponentText width e)]
  rfl

end Numeral

/-- A decimal in positional form or with an exponent reads as a decimal of the same worth. -/
theorem Decimal.exists_readDecimal_text (layout : Layout) (d : Decimal) :
    ∃ d', Numeral.readDecimal (d.text layout) = some d' ∧ d'.value = d.value := by
  have hdigits : ∀ c ∈ Text.toDigits 10 d.digits, c.isDigit = true :=
    fun _ => Text.isDigit_of_mem_toDigits
  have hworth := Numeral.worth_toDigits d.digits
  have hne : Text.toDigits 10 d.digits ≠ [] := Text.toDigits_ne_nil
  obtain ⟨digits, exponent⟩ := d
  rw [text]
  dsimp only at hdigits hworth hne ⊢
  generalize Text.toDigits 10 digits = ds at hdigits hworth hne ⊢
  subst hworth
  split
  · split
    · next hpoint =>
      refine ⟨_, Numeral.readDecimal_behind_point hdigits _, ?_⟩
      have hexponent : (-((-(ds.length + exponent)).toNat + ds.length : Int)) = exponent := by omega
      rw [hexponent]
    · split
      · next hpoint hinside =>
        refine ⟨_, Numeral.readDecimal_around_point hdigits (by omega) (by omega), ?_⟩
        have hexponent : ((ds.length + exponent).toNat - ds.length : Int) = exponent := by omega
        rw [hexponent]
      · next hpoint houtside =>
        refine ⟨_, Numeral.readDecimal_before_point hdigits hne _, ?_⟩
        obtain ⟨n, rfl⟩ := Int.eq_ofNat_of_zero_le (show 0 ≤ exponent by omega)
        have hzeros : (ds.length + (n : Int)).toNat - ds.length = n := by omega
        simp only [value, hzeros]
        push_cast
        rw [zpow_neg_one, zpow_natCast, pow_succ]
        field_simp
  · cases ds with
    | nil => exact absurd rfl hne
    | cons d rest =>
      obtain ⟨hd, hrest⟩ := List.forall_mem_cons.1 hdigits
      cases rest with
      | nil =>
        have hexponent : ([d].length + exponent - 1 : Int) = exponent := by simp
        refine ⟨_, Numeral.readDecimal_digit_with_exponent hd _ _, ?_⟩
        rw [hexponent]
      | cons d' rest =>
        have hexponent : ((d :: d' :: rest).length + exponent - 1 - (d' :: rest).length : Int) =
            exponent := by
          rw [List.length_cons]
          omega
        refine ⟨_, Numeral.readDecimal_with_exponent hd hrest _ _, ?_⟩
        rw [hexponent]

/-! ### Plain numerals -/

/-- Characters that numbers are written with. -/
def IsPlainFigure (c : Point) : Prop := c.isDigit = true ∨ c ∈ (".eE+-" : Text).toList

theorem isBlank_of_isPlainFigure {c : Point} (h : IsPlainFigure c) : Text.isBlank c = false := by
  rcases h with h | h
  · have hblanks : ∀ n < 58, 48 ≤ n → Text.blanks.contains n = false := by decide
    obtain ⟨hlow, hhigh⟩ := Numeral.toNat_of_isDigit h
    exact hblanks c.toNat hhigh hlow
  · have hsigns : ∀ c ∈ (".eE+-" : Text).toList, Text.isBlank c = false := by decide
    exact hsigns c h

namespace Numeral

variable {cs : List Point} (h : ∀ c ∈ cs, IsPlainFigure c)

include h

theorem trimmed_of_isPlainFigure : Text.Trimmed cs :=
  Text.trimmed_of_forall fun c hc => isBlank_of_isPlainFigure (h c hc)

/-- A number as it is written is in its bare form already. -/
theorem bare_of_isPlainFigure : bare cs = some cs := by
  have hsigns : ∀ c ∈ (".eE+-" : Text).toList, Text.digitWorth? c = none := by decide
  have hline : .char '_' ∉ cs := by
    intro hmem
    rcases h '_' hmem with hdigit | hsign
    · cases hdigit
    · revert hsign
      decide
  rw [bare, unpad_of_trimmed (trimmed_of_isPlainFigure h),
    plainDigits_of_forall fun c hc => (h c hc).imp_right (hsigns c), ungroup_of_not_mem hline]

end Numeral

/-! ### Integers -/

namespace Numeral

variable {cs : List Point}

theorem isPlainFigure_signed (negative : Bool) (h : ∀ c ∈ cs, IsPlainFigure c) :
    ∀ c ∈ Double.signed negative cs, IsPlainFigure c := by
  cases negative
  · exact h
  · exact List.forall_mem_cons.2 ⟨.inr (by simp), h⟩

theorem takeSign_signed (negative : Bool) (h : ∀ c ∈ cs.head?, c.isDigit = true) :
    takeSign (Double.signed negative cs) = (negative, cs) := by
  cases negative
  · refine takeSign_of_forall fun c hc => ⟨?_, ?_⟩
    · rintro rfl
      cases h _ hc
    · rintro rfl
      cases h _ hc
  · rfl

/-- A row of digits with a sign or without is read unless it is too long. -/
theorem readInt_of_digits (negative : Bool) (hne : cs ≠ []) (h : ∀ c ∈ cs, c.isDigit = true) :
    readInt (Double.signed negative cs) =
      if digitLimit < cs.length then .error (.tooLong cs.length)
      else .ok (applySign negative (worth cs)) := by
  have hplain := isPlainFigure_signed negative fun c hc => .inl (h c hc)
  have hsign : takeSign (Double.signed negative cs) = (negative, cs) :=
    takeSign_signed _ fun c hc => h c (List.mem_of_mem_head? hc)
  rw [readInt, bare_of_isPlainFigure hplain, Option.map_some, hsign]
  dsimp only
  rw [if_neg (not_or.2 ⟨hne, not_not.2 (List.all_eq_true.2 h)⟩)]

/-- An integer that text may hold reads as itself. -/
theorem readInt_writeInt {n : Int} (h : fitsText n = true) :
    readInt (writeInt n).toList = .ok n := by
  have hlength : (Text.toDigits 10 n.natAbs).length ≤ digitLimit :=
    (Text.length_toDigits_le_iff (by decide) (by decide)).2 (of_decide_eq_true h)
  rw [writeInt, Text.toList_ofList,
    readInt_of_digits _ Text.toDigits_ne_nil fun _ => Text.isDigit_of_mem_toDigits,
    if_neg (Nat.not_lt.2 hlength), worth_toDigits, applySign_natAbs]

end Numeral

/-! ### Doubles -/

/-- What the text of a decimal looks like. -/
structure IsDecimalText (cs : List Point) : Prop where
  head : ∀ c ∈ cs.head?, c.isDigit = true
  plain : ∀ c ∈ cs, IsPlainFigure c
  /-- No integer is written so. -/
  marked : ∃ c ∈ cs, c.isDigit = false

/-- Digits, a mark behind them, and more. -/
theorem IsDecimalText.of_append (as : List Point) {bs : List Point} {mark : Point} (hne : as ≠ [])
    (has : ∀ c ∈ as, c.isDigit = true) (hmark : mark ∈ (".e" : Text).toList)
    (hbs : ∀ c ∈ bs, IsPlainFigure c) : IsDecimalText (as ++ mark :: bs) where
  head c hc := by
    rw [List.head?_append_of_ne_nil _ hne] at hc
    exact has c (List.mem_of_mem_head? hc)
  plain c hc := by
    have hmarks : ∀ c ∈ (".e" : Text).toList, IsPlainFigure c := by simp [IsPlainFigure]
    rcases List.mem_append.1 hc with hc | hc
    · exact .inl (has c hc)
    · exact List.forall_mem_cons.2 ⟨hmarks _ hmark, hbs⟩ c hc
  marked := by
    have hmarks : ∀ c ∈ (".e" : Text).toList, c.isDigit = false := by decide
    exact ⟨mark, by simp, hmarks _ hmark⟩

theorem isPlainFigure_exponentText (width : Nat) (e : Int) :
    ∀ c ∈ Decimal.exponentText width e, IsPlainFigure c := by
  have hdigits : ∀ c ∈ Text.toDigits 10 e.natAbs, c.isDigit = true :=
    fun _ => Text.isDigit_of_mem_toDigits
  rw [Decimal.exponentText]
  refine List.forall_mem_cons.2 ⟨.inr (by simp), List.forall_mem_cons.2 ⟨.inr ?_, fun c hc => ?_⟩⟩
  · split <;> simp
  · exact .inl (Numeral.isDigit_of_mem_zeros_append hdigits hc)

theorem Decimal.isDecimalText_text (layout : Layout) (d : Decimal) :
    IsDecimalText (d.text layout) := by
  have hdigits : ∀ c ∈ Text.toDigits 10 d.digits, c.isDigit = true :=
    fun _ => Text.isDigit_of_mem_toDigits
  have hne : Text.toDigits 10 d.digits ≠ [] := Text.toDigits_ne_nil
  rw [text]
  generalize Text.toDigits 10 d.digits = ds at hdigits hne ⊢
  split
  · split
    · exact .of_append [.char '0'] (by simp) (by decide) (by simp) fun c hc =>
        .inl (Numeral.isDigit_of_mem_zeros_append hdigits hc)
    · split
      · next hpoint hinside =>
        have htake : ds.take (ds.length + d.exponent).toNat ≠ [] := by
          rw [ne_eq, List.take_eq_nil_iff, not_or]
          exact ⟨by omega, hne⟩
        exact .of_append _ htake (fun c hc => hdigits c (List.mem_of_mem_take hc)) (by simp)
          fun c hc => .inl (hdigits c (List.mem_of_mem_drop hc))
      · exact .of_append _ (List.append_ne_nil_of_left_ne_nil hne _)
          (fun c => Numeral.isDigit_of_mem_append_zeros hdigits) (by simp) (by simp [IsPlainFigure])
  · cases ds with
    | nil => exact absurd rfl hne
    | cons c rest =>
      obtain ⟨hc, hrest⟩ := List.forall_mem_cons.1 hdigits
      have hfirst : ∀ x ∈ [c], x.isDigit = true := by simpa using hc
      have hexponent := isPlainFigure_exponentText layout.exponentDigits
        ((c :: rest).length + d.exponent - 1)
      cases rest with
      | nil =>
        exact .of_append [c] (by simp) hfirst (by simp)
          (List.forall_mem_cons.1 hexponent).2
      | cons c' rest =>
        refine .of_append [c] (by simp) hfirst (by simp) fun x hx => ?_
        rcases List.mem_append.1 hx with hx | hx
        · exact .inl (hrest x hx)
        · exact hexponent x hx

namespace Numeral

variable {cs : List Point} {negative : Bool}

theorem bare_signed (h : IsDecimalText cs) :
    (bare (Double.signed negative cs)).map takeSign = some (negative, cs) := by
  rw [bare_of_isPlainFigure (isPlainFigure_signed _ h.plain), Option.map_some,
    takeSign_signed _ h.head]

theorem readInt_signed (h : IsDecimalText cs) :
    readInt (Double.signed negative cs) = .error .malformed := by
  obtain ⟨c, hc, hdigit⟩ := h.marked
  have hnot : ¬ cs.all Point.isDigit = true := by
    intro hall
    rw [List.all_eq_true.1 hall c hc] at hdigit
    cases hdigit
  rw [readInt, bare_signed h]
  exact if_pos (.inr hnot)

theorem readDouble_signed (h : IsDecimalText cs) {d : Decimal} (hd : readDecimal cs = some d) :
    readDouble (Double.signed negative cs) = some (d.toDouble negative) := by
  rw [readDouble, bare_signed h]
  dsimp only
  rw [hd]

/-- The text of a double reads as that double. -/
theorem readDouble_text (x : Double) : readDouble x.text.toList = some x := by
  cases x with
  | finite negative rank =>
    rw [Double.text, Text.toList_ofList]
    split
    · next hzero =>
      have hrank : rank = ⟨0, by decide⟩ := Fin.ext hzero
      subst hrank
      cases negative <;> decide +kernel
    · obtain ⟨d, hread, hvalue⟩ := (Double.shortest rank).exists_readDecimal_text .plain
      rw [readDouble_signed (Decimal.isDecimalText_text _ _) hread, Decimal.toDouble_eq,
        Decimal.rank_congr hvalue, Double.rank_shortest, Double.ofRank, dif_pos rank.isLt]
  | infinite negative => cases negative <;> decide +kernel
  | nan => decide +kernel

end Numeral

end Verdict
