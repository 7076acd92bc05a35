import Verdict.Json.Nesting

/-! Strings between quotes. Each character stands for itself or is spelt by an escape, one beyond
the 16-bit range by a pair of them; a half without its other half stands alone. A string is read up
to the first quote that no escape takes. -/

namespace Verdict.Json

/-- The text of an escape that names the low half of a pair, with more after it. -/
def StartsLow (text : List Point) : Prop :=
  ∃ e f g h more low, text = .char '\\' :: .char 'u' :: e :: f :: g :: h :: more ∧
    Text.readHex? [e, f, g, h] = some low ∧ Text.isLow low = true

/-- What stands between the quotes of a string, and the characters that it spells. -/
inductive Spells : List Point → List Point → Prop
  | nil : Spells [] []
  | plain {text cs : List Point} {c : Point} (hlow : 0x20 ≤ c.toNat) (hquote : c ≠ '"')
      (hslash : c ≠ '\\') (h : Spells text cs) : Spells (c :: text) (c :: cs)
  | short {text cs : List Point} {e c : Point} (he : shortEscape? e = some c) (h : Spells text cs) :
      Spells ('\\' :: e :: text) (c :: cs)
  /-- Two escapes that name the halves of one character. -/
  | pair {text cs : List Point} {a b c d e f g h : Point} {high low : Nat}
      (hhigh : Text.readHex? [a, b, c, d] = some high)
      (hlow : Text.readHex? [e, f, g, h] = some low)
      (hhalf : Text.isHigh high = true) (hother : Text.isLow low = true) (hrest : Spells text cs) :
      Spells ('\\' :: 'u' :: a :: b :: c :: d :: '\\' :: 'u' :: e :: f :: g :: h :: text)
        (Text.joinUnits high low :: cs)
  | unit {text cs : List Point} {a b c d : Point} {n : Nat}
      (hn : Text.readHex? [a, b, c, d] = some n)
      (halone : ¬ (Text.isHigh n = true ∧ StartsLow text)) (hrest : Spells text cs) :
      Spells ('\\' :: 'u' :: a :: b :: c :: d :: text) (Point.ofNat n :: cs)

variable {text rest cs : List Point}

/-- A spelt text goes on with a whole unit, or not with one at all. -/
theorem Spells.unit_cases (h : Spells text cs) :
    (∃ e f g h more n, text = .char '\\' :: .char 'u' :: e :: f :: g :: h :: more ∧
      Text.readHex? [e, f, g, h] = some n) ∨
    ∀ rest more, text ++ .char '"' :: rest ≠ .char '\\' :: .char 'u' :: more := by
  cases h with
  | nil => exact .inr fun rest more => by simp
  | plain hlow hquote hslash h => exact .inr fun rest more => by simp [hslash]
  | short he h =>
    refine .inr fun rest more heq => ?_
    simp only [List.cons_append, List.cons.injEq] at heq
    rw [heq.2.1] at he
    cases he
  | pair hhigh => exact .inl ⟨_, _, _, _, _, _, rfl, hhigh⟩
  | unit hn => exact .inl ⟨_, _, _, _, _, _, rfl, hn⟩

theorem readString_of_spells (h : Spells text cs) (rest : List Point) :
    readString (text ++ .char '"' :: rest) = some (cs, rest) := by
  induction h with
  | nil => rw [List.nil_append, readString]
  | @plain text cs c hlow hquote hslash h ih =>
    rw [List.cons_append, readString, if_neg (Nat.not_lt.2 hlow), ih]
    · rfl
    all_goals simp_all
  | @short text cs e c he h ih =>
    have hu : e ≠ 'u' := by
      rintro rfl
      cases he
    rw [List.cons_append, List.cons_append, readString, he, Option.bind_eq_bind, Option.bind_some,
      ih]
    · rfl
    all_goals simp_all
  | pair hhigh hlow hhalf hother hrest ih =>
    simp only [List.cons_append]
    rw [readString, hhigh, Option.bind_eq_bind, Option.bind_some, hlow]
    dsimp only
    rw [if_pos (by rw [hhalf, hother]; rfl), ih]
    rfl
  | @unit text cs a b c d n hn halone hrest ih =>
    -- with a second unit behind it, the reader looks whether the two are halves of one character
    rcases hrest.unit_cases with ⟨e, f, g, h, more, low, rfl, hlow⟩ | hnone
    · have hpair : ¬ (Text.isHigh n && Text.isLow low) = true := by
        rw [Bool.and_eq_true]
        exact fun hboth => halone ⟨hboth.1, e, f, g, h, more, low, rfl, hlow, hboth.2⟩
      simp only [List.cons_append] at ih ⊢
      rw [readString, hn, Option.bind_eq_bind, Option.bind_some, hlow]
      dsimp only
      rw [if_neg hpair, ih]
      rfl
    · simp only [List.cons_append]
      rw [readString, hn, Option.bind_eq_bind, Option.bind_some, ih]
      · rfl
      · exact fun e f g h more heq => hnone _ _ heq

/-- What is read behind a character goes on from it. -/
theorem exists_of_bind_cons {c : Point} {read : Option (List Point × List Point)}
    (h : (do let (ds, after) ← read; return (c :: ds, after)) = some (cs, rest)) :
    ∃ ds, read = some (ds, rest) ∧ cs = c :: ds := by
  obtain ⟨⟨ds, after⟩, hread, hpure⟩ := Option.bind_eq_some_iff.1 h
  cases hpure
  exact ⟨ds, hread, rfl⟩

theorem exists_spells_of_readString (hread : readString text = some (cs, rest)) :
    ∃ inner, text = inner ++ .char '"' :: rest ∧ Spells inner cs := by
  fun_induction readString text generalizing cs rest with
  | case1 => cases hread
  | case2 more =>
    cases hread
    exact ⟨[], rfl, .nil⟩
  | case3 a b c d e f g h more ihpair ihunit =>
    obtain ⟨high, hhigh, hread⟩ := Option.bind_eq_some_iff.1 hread
    cases hlow : Text.readHex? [e, f, g, h] with
    | none => rw [hlow] at hread; cases hread
    | some low =>
      rw [hlow] at hread
      dsimp only at hread
      split at hread
      · next hboth =>
        rw [Bool.and_eq_true] at hboth
        obtain ⟨ds, hmore, rfl⟩ := exists_of_bind_cons hread
        obtain ⟨inner, rfl, hinner⟩ := ihpair hmore
        exact ⟨_, rfl, .pair hhigh hlow hboth.1 hboth.2 hinner⟩
      · next hnot =>
        -- the second unit is read again, for itself or with what is behind it
        obtain ⟨ds, hmore, rfl⟩ := exists_of_bind_cons hread
        obtain ⟨inner, hinner, hspells⟩ := ihunit hmore
        refine ⟨_, congrArg (.char '\\' :: .char 'u' :: a :: b :: c :: d :: ·) hinner,
          .unit hhigh ?_ hspells⟩
        rintro ⟨hhalf, e', f', g', h', more', low', rfl, hlow', hother⟩
        simp only [List.cons_append, List.cons.injEq, true_and] at hinner
        obtain ⟨rfl, rfl, rfl, rfl, -⟩ := hinner
        cases hlow.symm.trans hlow'
        exact hnot (by rw [hhalf, hother]; rfl)
  | case4 a b c d more hnone ih =>
    obtain ⟨n, hn, hread⟩ := Option.bind_eq_some_iff.1 hread
    obtain ⟨ds, hmore, rfl⟩ := exists_of_bind_cons hread
    obtain ⟨inner, rfl, hinner⟩ := ih hmore
    refine ⟨_, rfl, .unit hn ?_ hinner⟩
    rintro ⟨-, e, f, g, h, more, low, rfl, -, -⟩
    exact hnone _ _ _ _ _ rfl
  | case5 e more hpair hunit ih =>
    obtain ⟨c, hc, hread⟩ := Option.bind_eq_some_iff.1 hread
    obtain ⟨ds, hmore, rfl⟩ := exists_of_bind_cons hread
    obtain ⟨inner, rfl, hinner⟩ := ih hmore
    exact ⟨_, rfl, .short hc hinner⟩
  | case6 => cases hread
  | case7 c more hquote hpair hunit hslash hlow ih =>
    obtain ⟨ds, hmore, rfl⟩ := exists_of_bind_cons hread
    have hne : c ≠ '\\' := by
      rintro rfl
      cases more with
      | nil => rw [readString] at hmore; cases hmore
      | cons d more => exact hslash d more rfl rfl
    obtain ⟨inner, rfl, hinner⟩ := ih hmore
    exact ⟨_, rfl, .plain (Nat.not_lt.1 hlow) hquote hne hinner⟩

/-- A string is read as what the text up to its closing quote spells. -/
theorem readString_eq_some_iff : readString text = some (cs, rest) ↔
    ∃ inner, text = inner ++ .char '"' :: rest ∧ Spells inner cs := by
  constructor
  · exact exists_spells_of_readString
  · rintro ⟨inner, rfl, h⟩
    exact readString_of_spells h rest

end Verdict.Json
