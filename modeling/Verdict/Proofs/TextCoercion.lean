import Verdict.Proofs.Number.Reading
import Verdict.Proofs.Number.Written
import Verdict.Proofs.Verdicts

/-! Values and their texts. A number or a truth value that is written out and comes back as text,
with blanks around it or without, compares with its own kind as it did before. -/

namespace Verdict

attribute [local instance] powOfNatPow decidableForallMem

/-! ### Numbers -/

namespace Double

/-- A finite double takes no more bits than its significand and its binade. -/
theorem unitsAt_lt (rank : Nat) : unitsAt rank < 2 ^ (53 + binade rank) := by
  have hsignificand : rank - binade rank * 2 ^ 52 < 2 ^ 53 := by
    rw [binade]
    omega
  rw [unitsAt, Nat.pow_add]
  exact Nat.mul_lt_mul_of_pos_right hsignificand (Nat.two_pow_pos _)

theorem unitsAt_lt_ten_pow (rank : Fin ranks) : unitsAt rank < 10 ^ digitLimit := by
  have hrank : rank.val < 2047 * 2 ^ 52 := rank.isLt
  have hbits : 53 + binade rank ≤ 3 * digitLimit := by
    rw [binade, digitLimit]
    omega
  exact (unitsAt_lt rank).trans_le
    ((Nat.pow_le_pow_right (by decide) hbits).trans (two_pow_le_ten_pow _))

/-- The integer part of a double is never too long for a text. -/
theorem fitsText_of_truncate? {x : Double} {i : Int} (h : x.truncate? = some i) :
    Numeral.fitsText i = true := by
  cases x with
  | finite negative rank =>
    have hunits : (if negative = true then -(unitsAt rank : Int) else unitsAt rank).natAbs =
        unitsAt rank := by
      cases negative <;> simp
    rw [truncate?, units?, Option.map_some, Option.some.injEq] at h
    subst h
    refine decide_eq_true (Nat.lt_of_le_of_lt ?_ (unitsAt_lt_ten_pow rank))
    rw [Int.natAbs_tdiv, hunits]
    exact Nat.div_le_self _ _
  | infinite negative => cases h
  | nan => cases h

theorem signed_tdiv_mul {n u : Nat} (h : n % 2 ^ u = 0) (negative : Bool) :
    (if negative then -(n : Int) else n).tdiv (2 ^ u) * 2 ^ u =
      if negative then -(n : Int) else n := by
  have hdvd : (2 ^ u : Int) ∣ n := by
    have hcast := Int.natCast_dvd_natCast.2 (Nat.dvd_of_mod_eq_zero h)
    rwa [Nat.cast_pow] at hcast
  cases negative
  · exact Int.tdiv_mul_cancel hdvd
  · exact Int.tdiv_mul_cancel (Int.dvd_neg.2 hdvd)

/-- A double without fractional part lies where its integer part does. -/
theorem place?_of_isIntegral {x : Double} (h : x.isIntegral = true) :
    ∃ i, x.truncate? = some i ∧ (Number.int i).place? = (Number.double x).place? := by
  cases x with
  | finite negative rank =>
    rw [isIntegral, beq_iff_eq] at h
    refine ⟨_, rfl, ?_⟩
    rw [Number.place?, signed_tdiv_mul h negative]
    rfl
  | infinite negative => cases h
  | nan => cases h

end Double

namespace Number

variable {x : Number}

/-- A text that a number is written as, and that reads as a number at the same place. -/
def WrittenAs (x : Number) (t : Text) : Prop :=
  x.templateText = .ok t ∧ Text.Trimmed t.toList ∧
    ∃ y, read? t.toList = some y ∧ y.place? = x.place?

theorem trimmed_writeInt (n : Int) : Text.Trimmed (Numeral.writeInt n).toList := by
  rw [Numeral.writeInt, Text.toList_ofList]
  exact Numeral.trimmed_of_isPlainFigure (Numeral.isPlainFigure_signed _ fun c hc =>
    .inl (Text.isDigit_of_mem_toDigits hc))

theorem read?_writeInt {n : Int} (h : Numeral.fitsText n = true) :
    read? (Numeral.writeInt n).toList = some (.int n) := by
  rw [read?, Text.trim_of_trimmed (trimmed_writeInt n), Numeral.readInt_writeInt h]

theorem exists_writtenAs_int {n : Int} (h : Numeral.fitsText n = true) :
    ∃ t, (Number.int n).WrittenAs t :=
  ⟨Numeral.writeInt n, by rw [templateText, text, if_pos h], trimmed_writeInt n, _,
    read?_writeInt h, rfl⟩

theorem isIntegral_zero (negative : Bool) :
    (Double.finite negative ⟨0, by decide⟩).isIntegral = true := by
  simp [Double.isIntegral, Double.unitsAt]

/-- A double without fractional part is written as an integer and reads as one; any other double
reads as itself. -/
theorem exists_writtenAs_double {x : Double} (h : x.isNaN = false) :
    ∃ t, (Number.double x).WrittenAs t := by
  cases hintegral : x.isIntegral with
  | true =>
    obtain ⟨i, hi, hplace⟩ := Double.place?_of_isIntegral hintegral
    have hfits := Double.fitsText_of_truncate? hi
    exact ⟨Numeral.writeInt i, by rw [templateText, hintegral, hi], trimmed_writeInt i, _,
      read?_writeInt hfits, hplace⟩
  | false =>
    have htext : (Number.double x).templateText = .ok x.text := by
      rw [templateText, hintegral]
      rfl
    have hint : Text.Trimmed x.text.toList ∧
        Numeral.readInt x.text.toList = .error .malformed := by
      cases x with
      | finite negative rank =>
        have hrank : rank.val ≠ 0 := by
          intro hzero
          obtain rfl : rank = ⟨0, by decide⟩ := Fin.ext hzero
          rw [isIntegral_zero] at hintegral
          cases hintegral
        have hdecimal := (Double.shortest rank).isDecimalText_text .plain
        rw [Double.text, Text.toList_ofList, if_neg hrank]
        exact ⟨Numeral.trimmed_of_isPlainFigure (Numeral.isPlainFigure_signed _ hdecimal.plain),
          Numeral.readInt_signed hdecimal⟩
      | infinite negative =>
        refine ⟨Text.trimmed_of_forall ?_, ?_⟩
        · cases negative <;> decide +kernel
        · cases negative <;> decide +kernel
      | nan => cases h
    refine ⟨x.text, htext, hint.1, .double x, ?_, rfl⟩
    rw [read?, Text.trim_of_trimmed hint.1, hint.2, Numeral.readDouble_text]
    rfl

/-- Every number that is not NaN has a text to read it from, unless it is too long for one. -/
theorem exists_writtenAs (hnan : x.isNaN = false) (hfits : ¬ (Value.number x).IsOverlong) :
    ∃ t, x.WrittenAs t := by
  cases x with
  | int n =>
    rw [Value.isOverlong_int_iff, Nat.not_le] at hfits
    exact exists_writtenAs_int (decide_eq_true hfits)
  | double x => exact exists_writtenAs_double hnan

theorem isNaN_congr {x y : Number} (h : x.place? = y.place?) : x.isNaN = y.isNaN := by
  rw [Bool.eq_iff_iff, isNaN_iff, isNaN_iff, worth?_eq, worth?_eq, h]

theorem bothPlaced_congr {a b a' b' : Number} (ha : a.place? = a'.place?)
    (hb : b.place? = b'.place?) (p : Place → Place → Bool) :
    bothPlaced p a b = bothPlaced p a' b' := by
  rw [bothPlaced, bothPlaced, ha, hb]

end Number

/-! ### Readings -/

variable {ctx : Context} {policy : Policy} {op : ComparisonOperator} {d : Datum} {s : Text}
  {v w : Value}

/-- A string that can be taken for the truth value, or for a number at the place of the number. -/
inductive ReadsAs (policy : Policy) (s : Text) : Value → Prop
  | number {x y : Number} (hs : (Value.string s).toNumber? policy = some y)
      (h : y.place? = x.place?) : ReadsAs policy s (.number x)
  | boolean {b : Bool} (hs : (Value.string s).toBoolean? policy = some b) :
      ReadsAs policy s (.boolean b)

theorem toList_padded (p t q : Text) :
    (p ++ t ++ q).toList = p.toList ++ t.toList ++ q.toList := by
  rw [Text.toList_append, Text.toList_append]

theorem Number.WrittenAs.readsAs {x : Number} {t p q : Text} (h : x.WrittenAs t)
    (hpolicy : policy.numericStrings = true) (hnan : x.isNaN = false) (hp : Text.Blank p.toList)
    (hq : Text.Blank q.toList) : ReadsAs policy (p ++ t ++ q) (.number x) := by
  obtain ⟨-, htrimmed, y, hread, hplace⟩ := h
  have hpadded : Number.read? (p ++ t ++ q).toList = some y := by
    rw [← hread, toList_padded]
    refine Number.read?_congr ?_
    rw [Text.trim_append hp htrimmed hq, Text.trim_of_trimmed htrimmed]
  have hy : y.isNaN = false := (Number.isNaN_congr hplace).trans hnan
  refine .number ?_ hplace
  rw [Value.toNumber?, if_pos hpolicy, hpadded]
  simp [Option.filter, hy]

theorem readsAs_booleanWord {p q : Text} (hpolicy : policy.booleanStrings = true)
    (hp : Text.Blank p.toList) (hq : Text.Blank q.toList) (b : Bool) :
    ReadsAs policy (p ++ (if b then ("true" : Text) else "false") ++ q) (.boolean b) := by
  have hword (t : Text) (ht : Text.Trimmed t.toList) :
      normalWord (p ++ t ++ q) = .ofList (Text.toLower t.toList) := by
    rw [normalWord, toList_padded, Text.trim_append hp ht hq]
  have htrue := hword "true" (Text.trimmed_of_forall (by decide))
  have hfalse := hword "false" (Text.trimmed_of_forall (by decide))
  rw [show Text.ofList (Text.toLower ("true" : Text).toList) = "true" by decide +kernel] at htrue
  rw [show Text.ofList (Text.toLower ("false" : Text).toList) = "false" by decide +kernel] at hfalse
  refine .boolean ?_
  cases b <;> simp [Value.toBoolean?, hpolicy, htrue, hfalse]

/-- What is written out reads as itself, with blanks around it or without. -/
theorem exists_text_readsAs (hnumeric : policy.numericStrings = true)
    (hboolean : policy.booleanStrings = true) (hkind : v.kind = .number ∨ v.kind = .boolean)
    (hnan : v.isNaN = false) (hfits : ¬ v.IsOverlong) :
    ∃ t, v.text = .ok t ∧ ∀ p q : Text, Text.Blank p.toList → Text.Blank q.toList →
      ReadsAs policy (p ++ t ++ q) v := by
  cases v with
  | number x =>
    obtain ⟨t, ht⟩ := Number.exists_writtenAs hnan hfits
    exact ⟨t, ht.1, fun p q => ht.readsAs hnumeric hnan⟩
  | boolean b =>
    refine ⟨if b then "true" else "false", ?_, fun p q hp hq =>
      readsAs_booleanWord hboolean hp hq b⟩
    cases b <;> rfl
  | string s => simp [Value.kind] at hkind
  | absent => simp [Value.kind] at hkind

/-! ### Comparisons -/

theorem orderTest_congr {test : Number → Number → Bool} (hop : op.orderTest? = some test)
    {a b a' b' : Number} (ha : a.place? = a'.place?) (hb : b.place? = b'.place?) :
    test a b = test a' b' := by
  cases op <;> cases hop
  · exact Number.bothPlaced_congr hb ha _
  · exact Number.bothPlaced_congr hb ha _
  · exact Number.bothPlaced_congr ha hb _
  · exact Number.bothPlaced_congr ha hb _

/-- Values that are compared as numbers of the same places come out alike. -/
theorem holds?_congr_places {l r l' r' : Value} {a b a' b' : Number}
    (h : coercePair ctx.policy l r = some (.number a, .number b))
    (h' : coercePair ctx.policy l' r' = some (.number a', .number b'))
    (ha : a.place? = a'.place?) (hb : b.place? = b'.place?) (hop : op.stringTest? = none) :
    holds? ctx op l r = holds? ctx op l' r' := by
  refine holds?_congr_of_coercePair ?_ (fun test htest => ?_) hop
  · rw [h, h']
    exact congrArg some (Number.bothPlaced_congr ha hb _)
  · rw [h, h']
    exact congrArg some (orderTest_congr htest ha hb)

/-- A string compares as the value it reads as, with a value of the same kind on either side. -/
theorem ReadsAs.holds?_eq (h : ReadsAs ctx.policy s v) (hw : w.kind = v.kind)
    (hop : op.stringTest? = none) :
    holds? ctx op (.string s) w = holds? ctx op v w ∧
      holds? ctx op w (.string s) = holds? ctx op w v := by
  cases h with
  | @number x y hs hplace =>
    cases w <;> cases hw
    next n =>
      have hself (a b : Number) :
          coercePair ctx.policy (.number a) (.number b) = some (.number a, .number b) :=
        coercePair_of_kind_eq rfl
      have hleft : coercePair ctx.policy (.string s) (.number n) = some (.number y, .number n) :=
        coercePair_eq_numbers_iff.2 ⟨hs, rfl, by simp [Value.kind]⟩
      have hright : coercePair ctx.policy (.number n) (.string s) = some (.number n, .number y) :=
        coercePair_eq_numbers_iff.2 ⟨rfl, hs, by simp [Value.kind]⟩
      exact ⟨holds?_congr_places hleft (hself x n) hplace rfl hop,
        holds?_congr_places hright (hself n x) rfl hplace hop⟩
  | @boolean b hs =>
    cases w <;> cases hw
    next c =>
      have hself (a b : Bool) :
          coercePair ctx.policy (.boolean a) (.boolean b) = some (.boolean a, .boolean b) :=
        coercePair_of_kind_eq rfl
      have hleft : coercePair ctx.policy (.string s) (.boolean c) =
          coercePair ctx.policy (.boolean b) (.boolean c) := by
        rw [hself, coercePair_eq_booleans_iff.2 ⟨hs, rfl, by simp [Value.kind]⟩]
      have hright : coercePair ctx.policy (.boolean c) (.string s) =
          coercePair ctx.policy (.boolean c) (.boolean b) := by
        rw [hself, coercePair_eq_booleans_iff.2 ⟨rfl, hs, by simp [Value.kind]⟩]
      exact ⟨holds?_congr_of_coercePair (by rw [hleft]) (fun test _ => by rw [hleft]) hop,
        holds?_congr_of_coercePair (by rw [hright]) (fun test _ => by rw [hright]) hop⟩

theorem ReadsAs.verdict_eq (h : ReadsAs ctx.policy s v) (hfits : ¬ v.IsOverlong)
    (hw : w.kind = v.kind) (hd : ComparisonOperator.ofDatum? d = some op)
    (hop : op.stringTest? = none) :
    verdict ctx (.string s) d w = verdict ctx v d w ∧
      verdict ctx w d (.string s) = verdict ctx w d v := by
  have habsent : (Value.string s).isAbsent = v.isAbsent := by cases h <;> rfl
  have hlong : (Value.string s).IsOverlong ↔ v.IsOverlong :=
    iff_of_false (Value.not_isOverlong_string s) hfits
  refine ⟨verdict_congr habsent rfl (or_congr hlong .rfl) fun op' hop' => ?_,
    verdict_congr rfl habsent (or_congr .rfl hlong) fun op' hop' => ?_⟩
  · cases hd.symm.trans hop'
    exact (h.holds?_eq hw hop).1
  · cases hd.symm.trans hop'
    exact (h.holds?_eq hw hop).2

/-- The text of a number or a truth value, with blanks around it or without, compares with values of
that kind as the number or truth value itself does. -/
theorem exists_text_verdict_eq (hnumeric : ctx.policy.numericStrings = true)
    (hboolean : ctx.policy.booleanStrings = true) (hkind : v.kind = .number ∨ v.kind = .boolean)
    (hnan : v.isNaN = false) (hfits : ¬ v.IsOverlong) :
    ∃ t, v.text = .ok t ∧ ∀ p q : Text, Text.Blank p.toList → Text.Blank q.toList →
      ∀ w : Value, w.kind = v.kind → ∀ (d : Datum) (op : ComparisonOperator),
        ComparisonOperator.ofDatum? d = some op → op.stringTest? = none →
          verdict ctx (.string (p ++ t ++ q)) d w = verdict ctx v d w ∧
            verdict ctx w d (.string (p ++ t ++ q)) = verdict ctx w d v := by
  obtain ⟨t, ht, hreads⟩ := exists_text_readsAs hnumeric hboolean hkind hnan hfits
  exact ⟨t, ht, fun p q hp hq w hw d op hd hop => (hreads p q hp hq).verdict_eq hfits hw hd hop⟩

/-- An integer that arrives as text is still greater than the double nearest to it. -/
theorem text_next_to_double :
    let ctx : Context := ⟨fun _ => .ok .null, .empty, .known .default, {}⟩
    let v : Value := .number (.int 9007199254740993)
    let w : Value := .number (.double (.nearest false 9007199254740993 1))
    ¬ v.IsOverlong ∧ v.text = .ok "9007199254740993" ∧
      verdict ctx (.string "\t9007199254740993 ") (.string ">") w = .ok (true, none) ∧
      verdict ctx w (.string "eq") (.string "\t9007199254740993 ") =
        .ok (false, some .conditionFailed) := by
  intro ctx v w
  have hfits : ¬ v.IsOverlong := by decide +kernel
  have htext : v.text = .ok "9007199254740993" := by decide +kernel
  have hnumeric : ctx.policy.numericStrings = true := rfl
  obtain ⟨t, ht, hverdict⟩ := exists_text_verdict_eq hnumeric rfl (.inl rfl) rfl hfits
  cases htext.symm.trans ht
  have hpadded := hverdict "\t" " " (by decide) (by decide) w rfl
  have hgreater : ComparisonOperator.ofDatum? (.string ">") = some .greaterThan := by decide +kernel
  have hequals : ComparisonOperator.ofDatum? (.string "eq") = some .equals := by decide +kernel
  have hholds : holds? ctx .greaterThan v w = some true := by decide +kernel
  have hfails : holds? ctx .equals w v = some false := by decide +kernel
  refine ⟨hfits, htext, (hpadded _ _ hgreater rfl).1.trans ?_, (hpadded _ _ hequals rfl).2.trans ?_⟩
  · rw [verdict_of_present hgreater rfl, hholds]
  · have hw : ¬ w.IsOverlong := by decide +kernel
    rw [verdict_of_present hequals rfl, hfails]
    exact if_neg (not_or.2 ⟨hw, hfits⟩)

end Verdict
