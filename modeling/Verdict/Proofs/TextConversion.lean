import Verdict.Proofs.Builtins
import Verdict.Proofs.Number.Integer
import Verdict.Proofs.TextCoercion
import Verdict.Proofs.Warnings

/-! Conversions to text and from text. What `string` writes, the other built-in transforms read
back as the same number or truth value. Texts from elsewhere may write numbers that `int` and
`double` cannot give; such a text is lost. -/

namespace Verdict

attribute [local instance] powOfNatPow

namespace Number

variable {n : Number} {i : Int} {x : Double}

/-- Whatever lies where an integer does has that integer part. -/
theorem toInt_of_place? (h : n.place? = (Number.int i).place?) : n.toInt = .ok i := by
  cases n with
  | int j =>
    have hunits : j * 2 ^ Double.unitExponent = i * 2 ^ Double.unitExponent :=
      Place.at.inj (Option.some.inj h)
    have hpos : (2 ^ Double.unitExponent : Int) ≠ 0 := by positivity
    rw [toInt, Int.eq_of_mul_eq_mul_right hpos hunits]
  | double x =>
    have htruncate := Double.truncate?_of_place? h.symm
    cases x with
    | nan => cases htruncate
    | finite negative rank => rw [toInt, htruncate]; exact Double.noConfusion
    | infinite negative => cases htruncate

/-- Whatever lies where a double does has a nearest double there. -/
theorem exists_toDouble_of_place? (h : n.place? = (Number.double x).place?) :
    ∃ y, n.toDouble = .ok y ∧ (Number.double y).place? = (Number.double x).place? := by
  cases n with
  | int j =>
    obtain ⟨y, hy, hplace⟩ := Double.exists_ofInt?_of_place? h
    exact ⟨y, by rw [toDouble, hy, Option.elim_some], hplace⟩
  | double y => exact ⟨y, rfl, h⟩

/-- Every number but an infinite one and a NaN has an integer part. -/
theorem exists_toInt_iff (n : Number) :
    (∃ m, n.toInt.map Number.int = .ok m ∧ m.isNaN = false) ↔
      ∀ x, n = .double x → ∃ negative rank, x = .finite negative rank := by
  cases n with
  | int i => simp [toInt, Except.map, isNaN]
  | double x => cases x <;> simp [toInt, Double.truncate?, Double.units?, Except.map, isNaN]

/-- Every number but a NaN and an integer past the limit has a nearest double. -/
theorem exists_toDouble_iff (n : Number) :
    (∃ m, n.toDouble.map Number.double = .ok m ∧ m.isNaN = false) ↔
      n.isNaN = false ∧ ∀ i, n = .int i → i.natAbs < Double.integerLimit := by
  cases n with
  | double x => simp [toDouble, Except.map, isNaN]
  | int i =>
    have hlimit := Double.ofInt?_eq_none_iff i
    rw [toDouble]
    cases hi : Double.ofInt? i with
    | none => simp [Except.map, isNaN, hlimit.1 hi]
    | some x =>
      obtain ⟨negative, rank, rfl⟩ := Double.exists_finite_of_ofInt? hi
      rw [hi] at hlimit
      simpa [Except.map, isNaN, Double.isNaN] using hlimit

end Number

namespace Registry

variable {r : Registry} {name s : Text}

/-! ### Through text -/

/-- A value made text and then converted. -/
def throughText (r : Registry) (name : Text) (v : Value) : Traced Value :=
  r.apply "string" v >>= r.apply name

theorem throughText_outcome (r : Registry) (name : Text) (v : Value) :
    (r.throughText name v).outcome = .ok (r.image name (r.image "string" v)) := by
  rw [throughText, Traced.outcome_bind_of_ok (r.apply_outcome "string" v), apply_outcome]

theorem image_of_find? {label : Text} {run : Datum → Except Fault Datum}
    (h : r.find? name = some ⟨label, run⟩) (v : Value) :
    r.image name v = answerValue (run v.raw) := by
  rw [image, h]

theorem HasBuiltins.image_eq (h : r.HasBuiltins) {run : Datum → Except Fault Datum}
    (ht : ⟨name, run⟩ ∈ Builtin.all) (v : Value) : r.image name v = answerValue (run v.raw) :=
  image_of_find? (h ⟨name, run⟩ ht) v

theorem HasBuiltins.image_string (h : r.HasBuiltins) (v : Value) :
    r.image "string" v = answerValue (Builtin.string v.raw) :=
  h.image_eq (by simp [Builtin.all]) v

/-- A number that has a text goes through it as the number that is read there. -/
theorem HasBuiltins.throughText_number (h : r.HasBuiltins) {convert : Number → Except Fault Number}
    (ht : ⟨name, Builtin.convertNumber convert⟩ ∈ Builtin.all) {x y : Number} {t : Text}
    (hnan : x.isNaN = false) (htext : x.templateText = .ok t)
    (hread : Number.read? t.toList = some y) :
    (r.throughText name (.number x)).outcome = .ok (answerValue ((convert y).map .number)) := by
  have hraw : (Value.number x).raw.toValue = .number x := Value.toValue_raw hnan
  have hstring : r.image "string" (.number x) = .string t := by
    rw [h.image_string, Builtin.string, hraw]
    dsimp only
    rw [Value.text, htext]
    rfl
  have htoValue : (Value.string t).raw.toValue = .string t := rfl
  rw [throughText_outcome, hstring, h.image_eq ht, Builtin.convertNumber, htoValue]
  dsimp only
  rw [hread]

/-- What `string` writes is read back by the other built-in transforms: an integer and a truth
value exactly, a double as one of the same worth, and a double without fractional part also as
the integer that it is. -/
theorem throughText_of_hasBuiltins (h : r.HasBuiltins) :
    (∀ n : Int, n.natAbs < 10 ^ digitLimit →
      (r.throughText "int" (.number (.int n))).outcome = .ok (.number (.int n))) ∧
    (∀ b : Bool, (r.throughText "bool" (.boolean b)).outcome = .ok (.boolean b)) ∧
    (∀ x : Double, x.isNaN = false → ∃ y : Double,
      (Number.double y).eqv (.double x) = true ∧
        (r.throughText "double" (.number (.double x))).outcome = .ok (.number (.double y))) ∧
    ∀ x : Double, x.isIntegral = true → ∃ i : Int,
      (Number.int i).eqv (.double x) = true ∧
        (r.throughText "int" (.number (.double x))).outcome = .ok (.number (.int i)) := by
  have hint : ⟨"int", Builtin.int⟩ ∈ Builtin.all := by simp [Builtin.all]
  have hdouble : ⟨"double", Builtin.double⟩ ∈ Builtin.all := by simp [Builtin.all]
  have hbool : ⟨"bool", Builtin.bool⟩ ∈ Builtin.all := by simp [Builtin.all]
  refine ⟨fun n hn => ?_, fun b => ?_, fun x (hnan : (Number.double x).isNaN = false) => ?_,
    fun x hintegral => ?_⟩
  · obtain ⟨t, htext, -, y, hread, hplace⟩ := Number.exists_writtenAs_int (decide_eq_true hn)
    rw [h.throughText_number hint rfl htext hread, Number.toInt_of_place? hplace]
    rfl
  · rw [throughText_outcome, h.image_string, h.image_eq hbool]
    cases b <;> decide +kernel
  · obtain ⟨t, htext, -, y, hread, hplace⟩ := Number.exists_writtenAs_double hnan
    obtain ⟨z, hz, hzplace⟩ := Number.exists_toDouble_of_place? hplace
    have heqv : (Number.double z).eqv (.double x) = true := Number.eqv_of_place? hzplace hnan
    have hznan : (Value.number (.double z)).isNaN = false :=
      (Number.isNaN_congr hzplace).trans hnan
    refine ⟨z, heqv, ?_⟩
    rw [h.throughText_number hdouble hnan htext hread, hz]
    exact congrArg _ (Value.toValue_raw hznan)
  · obtain ⟨i, hi, hiplace⟩ := Double.place?_of_isIntegral hintegral
    have hnan : (Number.double x).isNaN = false := (Number.isNaN_congr hiplace).symm
    obtain ⟨t, htext, -, y, hread, hplace⟩ := Number.exists_writtenAs_double hnan
    refine ⟨i, Number.eqv_of_place? hiplace hnan, ?_⟩
    rw [h.throughText_number hint hnan htext hread,
      Number.toInt_of_place? (hplace.trans hiplace.symm)]
    rfl

/-- Twenty-three digits come back exactly, also where they were those of a double. -/
theorem throughText_builtins :
    let n : Int := -12345678901234567890123
    let x : Double := .nearest false 10000000000000000000000 1
    builtins.HasBuiltins ∧
      (builtins.throughText "int" (.number (.int n))).outcome = .ok (.number (.int n)) ∧
      (builtins.throughText "bool" (.boolean false)).outcome = .ok (.boolean false) ∧
      (∃ y : Double, (Number.double y).eqv (.double x) = true ∧
        (builtins.throughText "double" (.number (.double x))).outcome =
          .ok (.number (.double y))) ∧
      ∃ i : Int, (Number.int i).eqv (.double x) = true ∧
        (builtins.throughText "int" (.number (.double x))).outcome = .ok (.number (.int i)) := by
  intro n x
  have hn : n.natAbs < 10 ^ digitLimit := by decide +kernel
  obtain ⟨hint, hbool, hdouble, hwhole⟩ := throughText_of_hasBuiltins hasBuiltins_builtins
  exact ⟨hasBuiltins_builtins, hint n hn, hbool false, hdouble x (by decide +kernel),
    hwhole x (by decide +kernel)⟩

/-! ### From text -/

/-- A conversion keeps a text if it makes a number of it or leaves it as it is, without a record
above debug level. -/
def KeepsText (r : Registry) (name s : Text) : Prop :=
  (∃ v, (r.apply name (.string s)).outcome = .ok v ∧ (v.kind = .number ∨ v = .string s)) ∧
    (r.apply name (.string s)).aboveDebug = []

theorem aboveDebug_apply_eq_nil_iff {label : Text} {run : Datum → Except Fault Datum}
    (h : r.find? name = some ⟨label, run⟩) (v : Value) :
    (r.apply name v).aboveDebug = [] ↔ ∃ d, run v.raw = .ok d := by
  rw [apply, h]
  dsimp only
  cases run v.raw with
  | ok d => exact iff_of_true rfl ⟨d, rfl⟩
  | error fault => exact iff_of_false (List.cons_ne_nil _ _) (by simp)

theorem not_keepsText_of_absent (h : (r.apply name (.string s)).outcome = .ok .absent) :
    ¬ r.KeepsText name s := by
  rintro ⟨⟨v, hv, hkept⟩, -⟩
  cases h.symm.trans hv
  simp [Value.kind] at hkept

section Conversion

variable {convert : Number → Except Fault Number} {n m : Number}
  (h : r.find? name = some ⟨name, Builtin.convertNumber convert⟩)

include h

/-- A text that writes no number is left as it is. -/
theorem keepsText_of_read?_eq_none (hs : Number.read? s.toList = none) : r.KeepsText name s := by
  have hrun : Builtin.convertNumber convert (Value.string s).raw = .ok (.string s) := by
    simp only [Builtin.convertNumber, Value.raw, Datum.toValue, hs]
  refine ⟨⟨.string s, ?_, .inr rfl⟩, (aboveDebug_apply_eq_nil_iff h _).2 ⟨_, hrun⟩⟩
  rw [apply_outcome, image_of_find? h, hrun]
  rfl

theorem keepsText_of_read? (hs : Number.read? s.toList = some n) (hn : convert n = .ok m)
    (hm : m.isNaN = false) : r.KeepsText name s := by
  have hrun : Builtin.convertNumber convert (Value.string s).raw = .ok (.number m) := by
    simp only [Builtin.convertNumber, Value.raw, Datum.toValue, hs, hn]
    rfl
  have hraw : (Value.number m).raw.toValue = .number m := Value.toValue_raw hm
  refine ⟨⟨.number m, ?_, .inl rfl⟩, (aboveDebug_apply_eq_nil_iff h _).2 ⟨_, hrun⟩⟩
  rw [apply_outcome, image_of_find? h, hrun]
  exact congrArg _ hraw

/-- A text is lost if no number comes of the number that it writes. -/
theorem apply_outcome_of_lost (hs : Number.read? s.toList = some n)
    (hn : ∀ m, convert n = .ok m → m.isNaN = true) :
    (r.apply name (.string s)).outcome = .ok .absent := by
  have hrun : Builtin.convertNumber convert (Value.string s).raw = (convert n).map .number := by
    simp only [Builtin.convertNumber, Value.raw, Datum.toValue, hs]
  rw [apply_outcome, image_of_find? h, hrun]
  cases hm : convert n with
  | error fault => rfl
  | ok m =>
    have hraw : (Value.number m).raw.toValue = .absent := Value.toValue_raw_of_isNaN (hn m hm)
    exact congrArg _ hraw

/-- A text is kept if a number comes of the number that it writes, if any; else it is lost. -/
theorem keepsText_iff_of_find? :
    (r.KeepsText name s ↔ ∀ n, Number.read? s.toList = some n →
      ∃ m, convert n = .ok m ∧ m.isNaN = false) ∧
    (¬ r.KeepsText name s → (r.apply name (.string s)).outcome = .ok .absent) := by
  by_cases hall : ∀ n, Number.read? s.toList = some n → ∃ m, convert n = .ok m ∧ m.isNaN = false
  · have hkept : r.KeepsText name s := by
      cases hs : Number.read? s.toList with
      | none => exact keepsText_of_read?_eq_none h hs
      | some n =>
        obtain ⟨m, hn, hm⟩ := hall n hs
        exact keepsText_of_read? h hs hn hm
    exact ⟨iff_of_true hkept hall, fun hlost => absurd hkept hlost⟩
  · obtain ⟨n, hs, hn⟩ : ∃ n, Number.read? s.toList = some n ∧
        ∀ m, convert n = .ok m → m.isNaN = true := by
      simpa using hall
    have hlost := apply_outcome_of_lost h hs hn
    exact ⟨iff_of_false (not_keepsText_of_absent hlost) hall, fun _ => hlost⟩

end Conversion

/-- The built-in `int` keeps a text unless it writes an infinity or a NaN, a decimal past the
greatest double included; `double` keeps one unless it writes a NaN, or an integer that no finite
double is nearest to. A text that is not kept becomes the absent value. -/
theorem keepsText_iff (h : r.HasBuiltins) (s : Text) :
    (r.KeepsText "int" s ↔ ∀ x, Number.read? s.toList = some (.double x) →
      ∃ negative rank, x = .finite negative rank) ∧
    (r.KeepsText "double" s ↔ ∀ n, Number.read? s.toList = some n →
      n.isNaN = false ∧ ∀ i, n = .int i → i.natAbs < Double.integerLimit) ∧
    ∀ name : Text, name = "int" ∨ name = "double" → ¬ r.KeepsText name s →
      (r.apply name (.string s)).outcome = .ok .absent := by
  have hint : r.find? "int" = some ⟨"int", Builtin.int⟩ := h ⟨"int", _⟩ (by simp [Builtin.all])
  have hdouble : r.find? "double" = some ⟨"double", Builtin.double⟩ :=
    h ⟨"double", _⟩ (by simp [Builtin.all])
  obtain ⟨hkint, hlint⟩ := keepsText_iff_of_find? hint (s := s)
  obtain ⟨hkdouble, hldouble⟩ := keepsText_iff_of_find? hdouble (s := s)
  simp only [Number.exists_toInt_iff] at hkint
  simp only [Number.exists_toDouble_iff] at hkdouble
  refine ⟨hkint.trans ?_, hkdouble, ?_⟩
  · exact ⟨fun hall x hx => hall _ hx x rfl, fun hall n hn x hx => hall x (hx ▸ hn)⟩
  · rintro name (rfl | rfl)
    · exact hlint
    · exact hldouble

/-- A decimal is kept by `int`, and an infinity by `double`. -/
theorem keepsText_builtins :
    builtins.HasBuiltins ∧ builtins.KeepsText "int" " 7.5 " ∧
      builtins.KeepsText "double" "-inf" := by
  obtain ⟨hint, -, -⟩ := keepsText_iff hasBuiltins_builtins " 7.5 "
  obtain ⟨-, hdouble, -⟩ := keepsText_iff hasBuiltins_builtins "-inf"
  have hdecimal : Number.read? (" 7.5 " : Text).toList = some (.double (.nearest false 15 2)) := by
    decide +kernel
  have hinfinite : Number.read? ("-inf" : Text).toList = some (.double (.infinite true)) := by
    decide +kernel
  refine ⟨hasBuiltins_builtins, hint.2 fun x hx => ?_, hdouble.2 fun n hn => ?_⟩
  · have heq : x = .nearest false 15 2 :=
      Number.double.inj (Option.some.inj (hx.symm.trans hdecimal))
    rw [heq]
    exact ⟨false, ⟨Double.nearestRank 15 2, by decide +kernel⟩, by decide +kernel⟩
  · cases hinfinite.symm.trans hn
    exact ⟨rfl, fun i hi => by cases hi⟩

/-- An infinity written out is lost to `int` with a warning, a NaN to `double` without one. -/
theorem not_keepsText_builtins :
    ¬ builtins.KeepsText "int" "inf" ∧
      (builtins.apply "int" (.string "inf")).outcome = .ok .absent ∧
      (builtins.apply "int" (.string "inf")).aboveDebug.length = 1 ∧
    ¬ builtins.KeepsText "double" "nan" ∧
      (builtins.apply "double" (.string "nan")).outcome = .ok .absent ∧
      (builtins.apply "double" (.string "nan")).aboveDebug = [] := by
  have hinf : (builtins.apply "int" (.string "inf")).outcome = .ok .absent := by decide +kernel
  have hnan : (builtins.apply "double" (.string "nan")).outcome = .ok .absent := by decide +kernel
  refine ⟨not_keepsText_of_absent hinf, hinf, ?_, not_keepsText_of_absent hnan, hnan, ?_⟩
  · decide +kernel
  · decide +kernel

end Registry

end Verdict
