import Verdict.Expression.Reader
import Verdict.Proofs.Builtins
import Verdict.Proofs.Json.Nesting
import Verdict.Proofs.TokenRendering

/-! Operands on a command line. Token text becomes a token and any other text a literal: the scalar
that it writes, or the text itself. One word is lost, that of NaN, and a text with containers too
deep inside each other is not read at all. -/

namespace Verdict

/-! ### Texts of NaN -/

theorem Double.isNaN_ofRank (negative : Bool) (rank : Nat) :
    (ofRank negative rank).isNaN = false := by
  rw [ofRank]
  split <;> rfl

theorem Decimal.isNaN_toDouble (negative : Bool) (d : Decimal) :
    (d.toDouble negative).isNaN = false := by
  rw [toDouble]
  split_ifs
  · exact Double.isNaN_ofRank _ _
  · rfl
  · exact Double.isNaN_ofRank _ _
  · exact Double.isNaN_ofRank _ _
  · exact Double.isNaN_ofRank _ _

theorem Value.isNaN_iff {v : Value} : v.isNaN = true ↔ v = .number (.double .nan) := by
  constructor
  · intro h
    cases v with
    | number n =>
      cases n with
      | int i => cases h
      | double x => cases x <;> first | rfl | cases h
    | string s => cases h
    | boolean b => cases h
    | absent => cases h
  · rintro rfl
    rfl

namespace Json

variable {text : List Point} {v w : Value}

/-- A text writes one scalar at most. -/
theorem Writes.unique (hv : Writes text v) (hw : Writes text w) : v = w :=
  Option.some.inj ((readScalar_eq_some_iff.2 hv).symm.trans (readScalar_eq_some_iff.2 hw))

theorem Writes.ne_absent (h : Writes text v) : v ≠ .absent := by
  rintro rfl
  obtain ⟨-, -, h⟩ := h
  cases h with
  | word h =>
    have hwords : ∀ p ∈ words, p.2 ≠ .absent := by decide
    exact hwords _ h rfl

/-- Only the word itself writes NaN; digits never do. -/
theorem writes_nan_iff : Writes text (.number (.double .nan)) ↔
    ∃ before after, (∀ c ∈ before, isBlank c = true) ∧ (∀ c ∈ after, isBlank c = true) ∧
      text = before ++ ("NaN" : Text).toList ++ after := by
  constructor
  · rintro ⟨hbefore, hafter, h⟩
    refine ⟨_, _, hbefore, hafter, ?_⟩
    generalize hv : Value.number (.double .nan) = v at h
    cases h with
    | @word w v h =>
      have hwords : ∀ p ∈ words, p.2.isNaN = true → p.1 = "NaN" := by decide
      subst hv
      obtain rfl : w = "NaN" := hwords _ h rfl
      rfl
    | number h =>
      cases h with
      | int => cases hv
      | @double negative whole fraction ds exponent e =>
        have hnan := Decimal.isNaN_toDouble negative ⟨Numeral.worth (whole ++ ds), e - ds.length⟩
        rw [← Number.double.inj (Value.number.inj hv)] at hnan
        cases hnan
    | string h => cases hv
  · rintro ⟨before, after, hbefore, hafter, rfl⟩
    exact .padded hbefore hafter (.word (by simp [words]))

end Json

namespace Operand

variable {levels : Nat} {text : Text} {v : Value}

/-! ### Steps of the reading -/

theorem read_of_isSome (h : (Token.parse? text.toList).isSome = true) :
    read levels text = .ok (.token (.string text)) := by
  rw [read, if_pos h]

theorem read_of_exceeds (hnone : Token.parse? text.toList = none)
    (h : Json.Exceeds levels text.toList) :
    ∃ o : Json.Overflow, read levels text = .error (.tooDeep o.text) := by
  obtain ⟨o, ho⟩ := Option.isSome_iff_exists.1 (Json.isSome_overflow?_start.2 h)
  refine ⟨o, ?_⟩
  rw [read, hnone, Option.isSome_none, if_neg Bool.false_ne_true, ho]

theorem read_of_not_exceeds (hnone : Token.parse? text.toList = none)
    (h : ¬ Json.Exceeds levels text.toList) :
    read levels text = .ok (.literal (match Json.readScalar text.toList with
      | some v => v.raw.toValue
      | none => .string text)) := by
  rw [← Json.isSome_overflow?_start, Bool.not_eq_true, Option.isSome_eq_false_iff,
    Option.isNone_iff_eq_none] at h
  rw [read, hnone, Option.isSome_none, if_neg Bool.false_ne_true, h]
  cases Json.readScalar text.toList <;> rfl

/-- The text of a scalar that is no token is read as this scalar, but for NaN, which is nothing. -/
theorem read_of_writes (hnone : Token.parse? text.toList = none) (h : Json.Writes text.toList v) :
    read levels text = .ok (.literal (if v.isNaN then .absent else v)) := by
  rw [read_of_not_exceeds hnone h.not_exceeds, Json.readScalar_eq_some_iff.2 h]
  dsimp only
  cases hnan : v.isNaN with
  | true => rw [Value.toValue_raw_of_isNaN hnan, if_pos rfl]
  | false => rw [Value.toValue_raw hnan, if_neg Bool.false_ne_true]

theorem read_of_not_writes (hnone : Token.parse? text.toList = none)
    (hwrites : ∀ v, ¬ Json.Writes text.toList v) (h : ¬ Json.Exceeds levels text.toList) :
    read levels text = .ok (.literal (.string text)) := by
  have hread : Json.readScalar text.toList = none := by
    rw [Option.eq_none_iff_forall_ne_some]
    exact fun v hv => hwrites v (Json.readScalar_eq_some_iff.1 hv)
  rw [read_of_not_exceeds hnone h, hread]

/-- A text that is no token is read as no token. -/
theorem read_ne_token (hnone : Token.parse? text.toList = none) (d : Datum) :
    read levels text ≠ .ok (.token d) := by
  intro h
  by_cases hdeep : Json.Exceeds levels text.toList
  · obtain ⟨o, ho⟩ := read_of_exceeds hnone hdeep
    rw [ho] at h
    cases h
  · rw [read_of_not_exceeds hnone hdeep] at h
    cases h

/-- Only NaN is read as nothing. -/
theorem writes_nan_of_read (hnone : Token.parse? text.toList = none)
    (h : read levels text = .ok (.literal .absent)) :
    Json.Writes text.toList (.number (.double .nan)) := by
  by_cases hdeep : Json.Exceeds levels text.toList
  · obtain ⟨o, ho⟩ := read_of_exceeds hnone hdeep
    rw [ho] at h
    cases h
  · by_cases hwrites : ∃ v, Json.Writes text.toList v
    · obtain ⟨v, hv⟩ := hwrites
      rw [read_of_writes hnone hv] at h
      have habsent := Operand.literal.inj (Except.ok.inj h)
      split at habsent
      · next hnan => exact Value.isNaN_iff.1 hnan ▸ hv
      · exact absurd habsent hv.ne_absent
    · rw [read_of_not_writes hnone (not_exists.1 hwrites) hdeep] at h
      cases h

/-! ### Classification -/

/-- Token text is read as the token, and only token text. Any other text is read as a literal: of
the scalar that it writes, or of the text as it stands if it writes none, unless decoding goes too
deep into containers. The word NaN alone, with blanks around it or not, leaves nothing. -/
theorem read_classified (levels : Nat) (text : Text) :
    (read levels text = .ok (.token (.string text)) ↔ (Token.parse? text.toList).isSome = true) ∧
    (Token.parse? text.toList = none →
      (∀ v, Json.Writes text.toList v →
        read levels text = .ok (.literal (if v.isNaN then .absent else v))) ∧
      ((∀ v, ¬ Json.Writes text.toList v) → ¬ Json.Exceeds levels text.toList →
        read levels text = .ok (.literal (.string text))) ∧
      (Json.Exceeds levels text.toList →
        ∃ o : Json.Overflow, read levels text = .error (.tooDeep o.text)) ∧
      (read levels text = .ok (.literal .absent) ↔
        ∃ before after, (∀ c ∈ before, Json.isBlank c = true) ∧
          (∀ c ∈ after, Json.isBlank c = true) ∧
          text.toList = before ++ ("NaN" : Text).toList ++ after)) := by
  rw [← Json.writes_nan_iff]
  refine ⟨⟨fun h => ?_, read_of_isSome⟩, fun hnone => ⟨fun v => read_of_writes hnone,
    read_of_not_writes hnone, read_of_exceeds hnone, fun h => ?_, read_of_writes hnone⟩⟩
  · by_contra hsome
    exact read_ne_token (Option.not_isSome_iff_eq_none.1 hsome) _ h
  · exact writes_nan_of_read hnone h

/-- A text that is shorter than the levels are many, by three at least, is always read. -/
theorem exists_read_of_length_le (h : text.toList.length + 3 ≤ levels) :
    ∃ o, read levels text = .ok o := by
  by_cases htoken : (Token.parse? text.toList).isSome = true
  · exact ⟨_, read_of_isSome htoken⟩
  · have hdeep : ¬ Json.Exceeds levels text.toList := fun hdeep =>
      Nat.not_lt.2 h hdeep.lt_length
    exact ⟨_, read_of_not_exceeds (Option.not_isSome_iff_eq_none.1 htoken) hdeep⟩

/-- Opening brackets alone, one more of them than there are levels, are not read. -/
theorem read_openings (levels : Nat) : ∃ o : Json.Overflow,
    read levels (.ofList (List.replicate (levels + 1) (.char '['))) =
      .error (.tooDeep o.text) := by
  refine read_of_exceeds ?_ (Json.exceeds_openings levels)
  by_contra htoken
  cases Token.head?_of_parse? htoken

/-- The word NaN is no token, and what it is read as is not the text. -/
theorem read_nan_lost : Token.parse? ("NaN" : Text).toList = none ∧
    read 993 "NaN" = .ok (.literal .absent) ∧
    read 993 "NaN" ≠ .ok (.literal (.string "NaN")) := by
  have htoken : Token.parse? ("NaN" : Text).toList = none := by decide +kernel
  have hscalar : Json.readScalar ("NaN" : Text).toList = some (.number (.double .nan)) := by
    decide +kernel
  have hread : read 993 "NaN" = .ok (.literal .absent) :=
    read_of_writes htoken (Json.readScalar_eq_some_iff.1 hscalar)
  refine ⟨htoken, hread, ?_⟩
  rw [hread]
  exact fun h => Value.noConfusion (Operand.literal.inj (Except.ok.inj h))

end Operand

end Verdict
