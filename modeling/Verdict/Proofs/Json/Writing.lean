import Verdict.Json.Writer
import Verdict.Proofs.Json.Grammar

/-! Values written out. What is written follows the grammar of texts of scalars and writes the same
value there, to the last bit of a double, but that the halves of characters in a string are joined
where they stand side by side. -/

namespace Verdict

/-- The value with the halves of characters in a string joined where they stand side by side. -/
def Value.joined : Value → Value
  | .string s => .string (.ofList (Text.joinPairs s.toList))
  | v => v

/-- Only a string with a high half right before a low one is changed. -/
theorem Value.joined_eq_self_iff {v : Value} : v.joined = v ↔
    ∀ s, v = .string s → s.toList.IsChain fun c d => ¬ Text.IsPair c d := by
  cases v with
  | string s =>
    rw [joined, Value.string.injEq, Text.ofList_eq, Text.joinPairs_eq_self_iff]
    refine ⟨fun h t ht => ?_, fun h => h s rfl⟩
    cases ht
    exact h
  | number n => exact iff_of_true rfl fun _ h => Value.noConfusion h
  | boolean b => exact iff_of_true rfl fun _ h => Value.noConfusion h
  | absent => exact iff_of_true rfl fun _ h => Value.noConfusion h

namespace Json

variable {text cs : List Point}

/-! ### Strings -/

theorem exists_escapeUnit {n : Nat} (h : n < 0x10000) : ∃ a b c d,
    escapeUnit n = [.char '\\', .char 'u', a, b, c, d] ∧ Text.readHex? [a, b, c, d] = some n := by
  obtain ⟨a, b, c, d, hdigits, hread⟩ := Text.exists_hexDigits_four h
  exact ⟨a, b, c, d, by rw [escapeUnit, hdigits], hread⟩

/-- The escapes of the units of a character spell it, if no low half follows a high one. -/
theorem Spells.units (h : Spells text cs) (c : Point)
    (halone : ¬ (Text.isHigh c.toNat = true ∧ StartsLow text)) :
    Spells ((Text.units c).flatMap escapeUnit ++ text) (c :: cs) := by
  by_cases hc : c.toNat < 0x10000
  · obtain ⟨a, b, d, e, hunit, hread⟩ := exists_escapeUnit hc
    have hspells := Spells.unit hread halone h
    rw [Point.ofNat_toNat] at hspells
    rw [Text.units, if_pos hc, List.flatMap_singleton, hunit]
    exact hspells
  · obtain ⟨high, low, hunits, hhigh, hlow, hjoin⟩ := Text.exists_units_pair hc
    have hhigh' := Text.isHigh_iff.1 hhigh
    have hlow' := Text.isLow_iff.1 hlow
    obtain ⟨a, b, d, e, hfirst, hread⟩ := exists_escapeUnit (n := high) (by omega)
    obtain ⟨a', b', d', e', hsecond, hread'⟩ := exists_escapeUnit (n := low) (by omega)
    have hspells := Spells.pair hread hread' hhigh hlow h
    rw [hjoin] at hspells
    rw [hunits, List.flatMap_cons, List.flatMap_singleton, hfirst, hsecond]
    exact hspells

/-- A character has an escape of its own, or stands for itself, or is escaped by its units. -/
theorem escape_cases (c : Point) :
    (c.toNat < 0x80 ∧ ∃ e, shortEscape? e = some c ∧ escape c = [.char '\\', e]) ∨
    (c.toNat < 0x80 ∧ 0x20 ≤ c.toNat ∧ c ≠ '"' ∧ c ≠ '\\' ∧ escape c = [c]) ∨
    escape c = (Text.units c).flatMap escapeUnit := by
  rw [escape]
  split_ifs with hquote hfeed hreturn htab hback hform hplain
  · rcases hquote with rfl | rfl
    · exact .inl ⟨by decide, '"', rfl, rfl⟩
    · exact .inl ⟨by decide, '\\', rfl, rfl⟩
  · subst hfeed
    exact .inl ⟨by decide, 'n', rfl, rfl⟩
  · subst hreturn
    exact .inl ⟨by decide, 'r', rfl, rfl⟩
  · subst htab
    exact .inl ⟨by decide, 't', rfl, rfl⟩
  · subst hback
    exact .inl ⟨by decide, 'b', rfl, rfl⟩
  · subst hform
    exact .inl ⟨by decide, 'f', rfl, rfl⟩
  · exact .inr (.inl ⟨Nat.lt_of_le_of_lt hplain.2 (by decide), hplain.1,
      fun heq => hquote (.inl heq), fun heq => hquote (.inr heq), rfl⟩)
  · exact .inr (.inr rfl)

theorem isLow_of_startsLow_escapeUnit {n : Nat} (hn : n < 0x10000)
    (h : StartsLow (escapeUnit n ++ text)) : Text.isLow n = true := by
  obtain ⟨a, b, c, d, more, low, htext, hread, hlow⟩ := h
  obtain ⟨a', b', c', d', hunit, hread'⟩ := exists_escapeUnit hn
  rw [hunit] at htext
  simp only [List.cons_append, List.cons.injEq, true_and] at htext
  obtain ⟨rfl, rfl, rfl, rfl, -⟩ := htext
  rw [Option.some.inj (hread'.symm.trans hread)]
  exact hlow

/-- Only the escape of a low half names one first. -/
theorem isLow_of_startsLow {c : Point} (h : StartsLow (escape c ++ text)) :
    Text.isLow c.toNat = true := by
  rcases escape_cases c with ⟨-, mark, hmark, hescape⟩ | ⟨-, -, -, hslash, hescape⟩ | hescape
  · obtain ⟨_, _, _, _, _, _, htext, -⟩ := h
    rw [hescape] at htext
    simp only [List.cons_append, List.cons.injEq] at htext
    rw [htext.2.1] at hmark
    cases hmark
  · obtain ⟨_, _, _, _, _, _, htext, -⟩ := h
    rw [hescape] at htext
    exact absurd (List.cons.inj htext).1 hslash
  · rw [hescape] at h
    by_cases hc : c.toNat < 0x10000
    · rw [Text.units, if_pos hc, List.flatMap_singleton] at h
      exact isLow_of_startsLow_escapeUnit hc h
    · -- a whole character begins with its high half
      obtain ⟨high, low, hunits, hhigh, -, -⟩ := Text.exists_units_pair hc
      have hrange := Text.isHigh_iff.1 hhigh
      rw [hunits, List.flatMap_cons, List.append_assoc] at h
      have hlow := Text.isLow_iff.1 (isLow_of_startsLow_escapeUnit (by omega) h)
      omega

theorem Spells.escape (h : Spells text cs) (c : Point)
    (halone : ¬ (Text.isHigh c.toNat = true ∧ StartsLow text)) :
    Spells (escape c ++ text) (c :: cs) := by
  rcases escape_cases c with ⟨-, e, he, hescape⟩ | ⟨-, hlow, hquote, hslash, hescape⟩ | hescape
  · rw [hescape]
    exact .short he h
  · rw [hescape]
    exact .plain hlow hquote hslash h
  · rw [hescape]
    exact h.units c halone

/-- What is written for the halves of a character side by side is one character. -/
theorem Spells.escape_pair {c d : Point} (hpair : Text.IsPair c d) (h : Spells text cs) :
    Spells (Json.escape c ++ (Json.escape d ++ text)) (Text.joinUnits c.toNat d.toNat :: cs) := by
  have hhigh := Text.isHigh_iff.1 hpair.1
  have hlow := Text.isLow_iff.1 hpair.2
  have hunit (c : Point) (hc : 0xd800 ≤ c.toNat ∧ c.toNat < 0xe000) :
      Json.escape c = escapeUnit c.toNat := by
    rcases escape_cases c with ⟨hsmall, -⟩ | ⟨hsmall, -⟩ | hescape
    · omega
    · omega
    · rw [hescape, Text.units, if_pos (by omega), List.flatMap_singleton]
  obtain ⟨a, b, e, f, hfirst, hread⟩ := exists_escapeUnit (n := c.toNat) (by omega)
  obtain ⟨a', b', e', f', hsecond, hread'⟩ := exists_escapeUnit (n := d.toNat) (by omega)
  rw [hunit c (by omega), hunit d (by omega), hfirst, hsecond]
  exact .pair hread hread' hpair.1 hpair.2 h

/-- What is written for a text spells it with its halves joined. -/
theorem spells_escape (cs : List Point) : Spells (cs.flatMap escape) (Text.joinPairs cs) := by
  fun_induction Text.joinPairs cs with
  | case1 c d cs hpair ih => exact ih.escape_pair hpair
  | case2 c d cs hpair ih =>
    exact ih.escape c fun h => hpair ⟨h.1, isLow_of_startsLow h.2⟩
  | case3 cs h =>
    rcases cs with _ | ⟨c, _ | ⟨d, cs⟩⟩
    · exact .nil
    · refine Spells.nil.escape c ?_
      rintro ⟨-, a, b, d, e, more, low, htext, -⟩
      cases htext
    · exact absurd rfl (h c d cs)

/-! ### Integers -/

section Integers

variable {n : Nat} {ds : List Point}

theorem head?_toDigits_ne_zero (h : 0 < n) : (Text.toDigits 10 n).head? ≠ some (.char '0') := by
  induction n using Nat.strongRecOn with
  | ind n ih =>
    have hlow : ∀ n < 10, 0 < n → Point.char n.digitChar ≠ '0' := by decide
    rw [Text.toDigits_eq_if (by decide)]
    split
    · next hn => exact fun heq => hlow n hn h (Option.some.inj heq)
    · next hn =>
      rw [List.head?_append_of_ne_nil _ Text.toDigits_ne_nil]
      exact ih (n / 10) (by omega) (by omega)

theorem digits_toDigits (n : Nat) : Digits (Text.toDigits 10 n) :=
  ⟨Text.toDigits_ne_nil, fun _ => Text.isDigit_of_mem_toDigits⟩

theorem Digits.whole (h : Digits ds) (hhead : ds.head? ≠ some (.char '0')) : Whole ds :=
  ⟨h, fun hzero => absurd hzero hhead⟩

theorem whole_toDigits (n : Nat) : Whole (Text.toDigits 10 n) := by
  rcases Nat.eq_zero_or_pos n with rfl | hn
  · exact ⟨digits_toDigits 0, fun _ => rfl⟩
  · exact (digits_toDigits n).whole (head?_toDigits_ne_zero hn)

/-- An integer of not too many digits is written as itself. -/
theorem writesNumber_writeInt {n : Int} (h : Numeral.fitsText n = true) :
    WritesNumber (Numeral.writeInt n).toList (.int n) := by
  have hlength : (Text.toDigits 10 n.natAbs).length ≤ digitLimit :=
    (Text.length_toDigits_le_iff (by decide) (by decide)).2 (of_decide_eq_true h)
  have hwrites : WritesNumber (Double.signed (n < 0) (Text.toDigits 10 n.natAbs))
      (.int (Numeral.applySign (n < 0) (Numeral.worth (Text.toDigits 10 n.natAbs)))) :=
    .int (whole_toDigits n.natAbs) hlength
  rw [Numeral.worth_toDigits, Numeral.applySign_natAbs] at hwrites
  rwa [Numeral.writeInt, Text.toList_ofList]

end Integers

/-! ### Doubles -/

/-- A whole part, and a fraction or an exponent or both behind it. -/
def IsPointed (text : List Point) : Prop :=
  ∃ whole fraction ds exponent e, Whole whole ∧ Fraction fraction ds ∧ Exponent exponent e ∧
    fraction ++ exponent ≠ [] ∧ text = whole ++ (fraction ++ exponent)

/-- A pointed text is written for the double that it reads as. -/
theorem IsPointed.writesNumber {x : Double} {negative : Bool} (h : IsPointed text)
    (hx : Numeral.readDouble (Double.signed negative text) = some x) :
    WritesNumber (Double.signed negative text) (.double x) := by
  obtain ⟨whole, fraction, ds, exponent, e, hwhole, hfraction, hexponent, hne, rfl⟩ := h
  rw [Numeral.readDouble_signed (isDecimalText_parts hwhole hfraction hexponent hne)
    (readDecimal_parts hwhole hfraction hexponent)] at hx
  cases hx
  exact .double hwhole hfraction hexponent hne

theorem exponent_exponentText (width : Nat) (e : Int) :
    ∃ e', Exponent (Decimal.exponentText width e) e' := by
  have hdigits : Digits (List.replicate (width - (Text.toDigits 10 e.natAbs).length) (.char '0') ++
      Text.toDigits 10 e.natAbs) :=
    ⟨List.append_ne_nil_of_right_ne_nil _ Text.toDigits_ne_nil, fun _ =>
      Numeral.isDigit_of_mem_zeros_append fun _ => Text.isDigit_of_mem_toDigits⟩
  have hminus : ([.char '-'], true) ∈ signs := by simp [signs]
  have hplus : ([.char '+'], false) ∈ signs := by simp [signs]
  rw [Decimal.exponentText]
  split
  · exact ⟨_, .digits (.inl rfl) hminus hdigits⟩
  · exact ⟨_, .digits (.inl rfl) hplus hdigits⟩

/-- A non-zero decimal is pointed in whichever layout. -/
theorem isPointed_text (layout : Layout) {d : Decimal} (hd : 0 < d.digits) :
    IsPointed (d.text layout) := by
  have hdigits := digits_toDigits d.digits
  have hhead := head?_toDigits_ne_zero hd
  rw [Decimal.text]
  generalize Text.toDigits 10 d.digits = ds at hdigits hhead ⊢
  split
  · split
    · have hfraction :
          Digits (List.replicate (-(ds.length + d.exponent)).toNat (.char '0') ++ ds) :=
        ⟨List.append_ne_nil_of_right_ne_nil _ hdigits.ne_nil, fun _ =>
          Numeral.isDigit_of_mem_zeros_append hdigits.digit⟩
      exact ⟨[.char '0'], _, _, [], 0, ⟨⟨by simp, by simp⟩, fun _ => rfl⟩, .digits hfraction, .none,
        by simp, by simp⟩
    · split
      · next hpoint hinside =>
        have htake : Whole (ds.take (ds.length + d.exponent).toNat) := by
          refine Digits.whole ⟨?_, fun c hc => hdigits.digit c (List.mem_of_mem_take hc)⟩ ?_
          · rw [ne_eq, List.take_eq_nil_iff, not_or]
            exact ⟨by omega, hdigits.ne_nil⟩
          · rwa [List.head?_take, if_neg (by omega)]
        have hdrop : Digits (ds.drop (ds.length + d.exponent).toNat) :=
          ⟨by rw [ne_eq, List.drop_eq_nil_iff]; omega,
            fun c hc => hdigits.digit c (List.mem_of_mem_drop hc)⟩
        exact ⟨_, _, _, [], 0, htake, .digits hdrop, .none, by simp, by simp⟩
      · have hzeros (n : Nat) : Whole (ds ++ List.replicate n (.char '0')) := by
          refine Digits.whole ⟨List.append_ne_nil_of_left_ne_nil hdigits.ne_nil _, fun _ =>
            Numeral.isDigit_of_mem_append_zeros hdigits.digit⟩ ?_
          rwa [List.head?_append_of_ne_nil _ hdigits.ne_nil]
        exact ⟨_, _, [.char '0'], [], 0, hzeros _, .digits ⟨by simp, by simp⟩, .none, by simp, rfl⟩
  · cases ds with
    | nil => exact absurd rfl hdigits.ne_nil
    | cons c rest =>
      obtain ⟨e, hexponent⟩ := exponent_exponentText layout.exponentDigits
        ((c :: rest).length + d.exponent - 1)
      have hfirst : Whole [c] := Digits.whole
        ⟨by simp, by simpa using hdigits.digit c List.mem_cons_self⟩ hhead
      cases rest with
      | nil => exact ⟨[c], [], [], _, e, hfirst, .none, hexponent, List.cons_ne_nil _ _, rfl⟩
      | cons c' rest =>
        have hrest : Digits (c' :: rest) :=
          ⟨List.cons_ne_nil _ _, fun x hx => hdigits.digit x (List.mem_cons_of_mem c hx)⟩
        exact ⟨[c], _, _, _, e, hfirst, .digits hrest, hexponent, List.cons_ne_nil _ _, rfl⟩

theorem digits_shortest_pos {rank : Nat} (h : rank ≠ 0) : 0 < (Double.shortest rank).digits := by
  by_contra hzero
  refine h ?_
  rw [← Double.rank_shortest rank, Decimal.rank, Nat.eq_zero_of_not_pos hzero,
    Double.nearestRank_eq_zero]
  simp

/-- A finite double is written as itself, to the last bit and with the sign of a zero. -/
theorem writesNumber_finite (negative : Bool) (rank : Fin Double.ranks) :
    WritesNumber (Double.finite negative rank).text.toList (.double (.finite negative rank)) := by
  have hread := Numeral.readDouble_text (.finite negative rank)
  rw [Double.text, Text.toList_ofList] at hread ⊢
  refine IsPointed.writesNumber ?_ hread
  split
  · exact ⟨[.char '0'], [.char '.', .char '0'], [.char '0'], [], 0,
      ⟨⟨by simp, by simp⟩, fun _ => rfl⟩,
      .digits ⟨by simp, by simp⟩, .none, by simp, rfl⟩
  · next hrank => exact isPointed_text .plain (digits_shortest_pos hrank)

/-! ### Scalars -/

/-- Whatever has a text as a scalar is written as itself, its strings with their halves joined. -/
theorem exists_writesScalar {v : Value} (habsent : v ≠ .absent) (hnan : v.isNaN = false)
    (hfits : ∀ n, v = .number (.int n) → Numeral.fitsText n = true) :
    ∃ text, writeValue v = .ok text ∧ WritesScalar text.toList v.joined := by
  cases v with
  | string s => exact ⟨_, rfl, .string (spells_escape s.toList)⟩
  | number n =>
    cases n with
    | int i =>
      have htext : (Number.int i).text = .ok (Numeral.writeInt i) := by
        rw [Number.text, hfits i rfl, if_pos rfl]
      exact ⟨_, htext, .number (writesNumber_writeInt (hfits i rfl))⟩
    | double x =>
      cases x with
      | finite negative rank => exact ⟨_, rfl, .number (writesNumber_finite negative rank)⟩
      | infinite negative =>
        refine ⟨_, rfl, ?_⟩
        rw [writeDouble, Text.toList_ofList]
        cases negative
        · exact .word (w := "Infinity") (by simp [words, Value.joined])
        · exact .word (w := "-Infinity") (by simp [words, Value.joined])
      | nan => cases hnan
  | boolean b => cases b <;> exact ⟨_, rfl, .word (by simp [words, Value.joined])⟩
  | absent => exact absurd rfl habsent

end Json

end Verdict
