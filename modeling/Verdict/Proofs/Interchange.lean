import Verdict.Proofs.Number.Reading
import Verdict.Proofs.Verdicts

/-! Strings that are equal where case does not count. They compare alike with everything, but for
two spellings: a long s folds to an s and a ligature to its two letters, and neither is put in
lower case so when a truth value or a number is read. -/

namespace Verdict

attribute [local instance] decidableForallMem

/-! ### Texts that fold alike -/

namespace Text

open Numeral (IsFigure)

variable {a b cs : List Point} {c : Point}

/-- A figure folds to its lower case, and so does whatever folds to a figure. -/
theorem fold_singleton_of_isFigure {d : Point} (hd : d = c ∨ d ∈ fold [c]) (h : IsFigure d) :
    fold [c] = [c.toLower] := by
  rcases h with h | h
  · have hc : fold [c] = [c] := fold_singleton_of_spared hd (.inr h)
    have hdc : d = c := by simpa [hc] using hd
    rcases Numeral.toLower_cases c with hlower | ⟨hcapital, -⟩
    · rw [hc, hlower]
    · have hletters : ∀ n < 128, 65 ≤ n ∧ n ≤ 90 → digitWorth? (Point.ofNat n) = none := by
        decide +kernel
      have hnone := hletters c.toNat (by omega) hcapital
      rw [Point.ofNat_toNat, ← hdc] at hnone
      rw [hnone] at h
      cases h
  · have hplain : d.toNat < 128 := by
      have hfigures : ∀ x ∈ ("_+-.eE" : Text).toList, x.toNat < 128 := by decide
      exact hfigures d h
    have hc : c.toNat < 128 := by
      rcases hd with rfl | hd
      · exact hplain
      · rw [fold_singleton] at hd
        refine (plainFrom_fold.plain_or_mem hd hplain).resolve_right fun hsource => ?_
        have hsources : ∀ n ∈ foldSources, ∀ x ∈ remap foldShifts foldExpansions (Point.ofNat n),
            x ∉ ("_+-.eE" : Text).toList := by decide +kernel
        have hnot := hsources _ hsource
        rw [Point.ofNat_toNat] at hnot
        exact hnot d hd h
    rw [fold_singleton, lowersPlain_fold.remap_of_plain hc]

/-- Numerals with digits fold alike only if they are the same but for the case of plain letters. -/
theorem map_toLower_eq_of_isFigure (h : ∀ c ∈ a, IsFigure c) (hfold : fold a = fold b) :
    a.map Point.toLower = b.map Point.toLower := by
  have ha : fold a = a.map Point.toLower :=
    fold_of_forall fun c hc => fold_singleton_of_isFigure (.inl rfl) (h c hc)
  have hfigures : ∀ d ∈ fold b, IsFigure d := by
    intro d hd
    rw [← hfold, ha] at hd
    obtain ⟨c, hc, rfl⟩ := List.mem_map.1 hd
    exact Numeral.isFigure_toLower (h c hc)
  have hb : fold b = b.map Point.toLower := by
    refine fold_of_forall fun c hc => ?_
    obtain ⟨d, ds, hfirst⟩ := List.exists_cons_of_ne_nil (fold_singleton_ne_nil c)
    have hd : d ∈ fold [c] := by simp [hfirst]
    exact fold_singleton_of_isFigure (.inr hd) (hfigures d ((fold_infix_of_mem hc).subset hd))
  rw [← ha, hfold, hb]

end Text

/-! ### Numbers -/

namespace Text

theorem plain_of_map_toLower {cs : List Point} (h : Plain (cs.map Point.toLower)) : Plain cs := by
  intro c hc
  have hlower := h _ (List.mem_map_of_mem hc)
  rcases Numeral.toLower_cases c with hsame | ⟨hcapital, -⟩
  · rwa [hsame] at hlower
  · omega

end Text

/-- The names of numbers with the two letters in them that the ligature stands for. -/
def infinities : List (List Point) :=
  (["infinity", "+infinity", "-infinity"] : List Text).map Text.toList

namespace Number

open Text

variable {a b : List Point}

/-- Only the ligature in a name comes from anything but plain letters. -/
theorem eq_ligature_of_mem_names {name : List Point} (hname : name ∈ Numeral.names) :
    Plain name ∧ ∀ n ∈ foldSources, fold [Point.ofNat n] <:+: name →
      Point.ofNat n = 'ﬁ' ∧ name ∈ infinities := by
  have hnames : ∀ name ∈ Numeral.names, Plain name ∧ ∀ n ∈ foldSources,
      fold [Point.ofNat n] <:+: name → Point.ofNat n = 'ﬁ' ∧ name ∈ infinities := by decide +kernel
  exact hnames name hname

theorem fold_eq_name_iff {name cs : List Point} (hname : name ∈ Numeral.names) :
    (fold cs = name ∧ .char 'ﬁ' ∉ cs) ↔ Plain cs ∧ cs.map Point.toLower = name := by
  obtain ⟨hplain, hsources⟩ := eq_ligature_of_mem_names hname
  rw [← fold_eq_iff [.char 'ﬁ'] hplain (by decide) fun n hn hpart =>
    List.mem_singleton.2 (hsources n hn hpart).1]
  simp

/-- No number has a ligature in it. -/
theorem read?_of_mem_ligature (h : .char 'ﬁ' ∈ a) : read? a = none := by
  rw [← mem_trim_iff (by decide +kernel)] at h
  rw [← Option.not_isSome_iff_eq_none]
  intro hsome
  rcases isFigure_or_mem_names hsome with hfigures | hname
  · have hnot : ¬ Numeral.IsFigure 'ﬁ' := by decide +kernel
    exact hnot (hfigures _ h)
  · have hnames : ∀ name ∈ Numeral.names, Point.toLower 'ﬁ' ∉ name := by decide +kernel
    exact hnames _ hname (List.mem_map_of_mem h)

/-- A number is read from whatever folds as its text does, unless a ligature is in it. -/
theorem read?_eq_or_mem_ligature (hfold : fold a = fold b) (ha : (read? a).isSome) :
    read? a = read? b ∨ fold (trim a) ∈ infinities ∧ .char 'ﬁ' ∈ b := by
  have htrim := fold_trim_congr hfold
  rcases isFigure_or_mem_names ha with hfigures | hname
  · exact .inl (read?_congr (map_toLower_eq_of_isFigure hfigures htrim))
  · obtain ⟨hplain, hsources⟩ := eq_ligature_of_mem_names hname
    have hafold := ((fold_eq_name_iff hname).2 ⟨plain_of_map_toLower hplain, rfl⟩).1
    by_cases hb : .char 'ﬁ' ∈ trim b
    · refine .inr ⟨?_, (mem_trim_iff (by decide +kernel)).1 hb⟩
      have hpart := fold_infix_of_mem hb
      rw [← htrim, hafold] at hpart
      rw [hafold]
      exact (hsources (Point.toNat 'ﬁ') (by decide) (by rwa [Point.ofNat_toNat])).2
    · exact .inl (read?_congr ((fold_eq_name_iff hname).1 ⟨htrim ▸ hafold, hb⟩).2.symm)

/-- Texts that fold alike read as the same number, or neither does, unless both are the name of an
infinity and one of them is spelt with the ligature. -/
theorem read?_eq_of_fold (hfold : fold a = fold b)
    (h : ¬ (fold (trim a) ∈ infinities ∧ (.char 'ﬁ' ∈ a ↔ .char 'ﬁ' ∉ b))) : read? a = read? b := by
  have htrim := fold_trim_congr hfold
  by_cases ha : (read? a).isSome
  · refine (read?_eq_or_mem_ligature hfold ha).resolve_right fun ⟨hname, hb⟩ => h ⟨hname, ?_⟩
    refine iff_of_false (fun hmem => ?_) (not_not.2 hb)
    rw [read?_of_mem_ligature hmem] at ha
    cases ha
  · by_cases hb : (read? b).isSome
    · refine ((read?_eq_or_mem_ligature hfold.symm hb).resolve_right fun ⟨hname, hmem⟩ => ?_).symm
      refine h ⟨htrim ▸ hname, iff_of_true hmem fun hmem' => ?_⟩
      rw [read?_of_mem_ligature hmem'] at hb
      cases hb
    · rw [Option.not_isSome_iff_eq_none] at ha hb
      rw [ha, hb]

/-- The name of an infinity reads as one, unless it is spelt with the ligature. -/
theorem read?_of_infinity (hname : fold (trim a) ∈ infinities) (h : .char 'ﬁ' ∉ a) :
    ∃ negative, read? a = some (.double (.infinite negative)) := by
  have hnames : ∀ name ∈ infinities, name ∈ Numeral.names ∧ trim name = name ∧
      name.map Point.toLower = name ∧ (read? name = some (.double (.infinite true)) ∨
        read? name = some (.double (.infinite false))) := by decide +kernel
  obtain ⟨hmem, htrim, hlower, hread⟩ := hnames _ hname
  rw [← mem_trim_iff (by decide +kernel)] at h
  have hspelt := ((fold_eq_name_iff hmem).1 ⟨rfl, h⟩).2
  rw [read?_congr (t := fold (trim a)) (by rw [htrim, hlower, hspelt])]
  rcases hread with hread | hread
  · exact ⟨true, hread⟩
  · exact ⟨false, hread⟩

end Number

/-! ### Values -/

variable {ctx : Context} {policy : Policy} {a b : Text} {v : Value}

/-- No comparison tells `l` from `r` by means of `v`, on whichever side. -/
def Interchangeable (ctx : Context) (l r v : Value) : Prop :=
  ∀ d, verdict ctx l d v = verdict ctx r d v ∧ verdict ctx v d l = verdict ctx v d r

/-- Strings that fold alike and yet are read apart for a comparison with `v`: both would say
`false`, or the name of an infinity, and just one of them has the letter that cannot be read so. -/
inductive ReadApart (policy : Policy) (a b : Text) : Value → Prop
  | boolean {x : Bool} (h : policy.booleanStrings = true)
      (hword : Text.fold (Text.trim a.toList) = ("false" : Text).toList)
      (hletter : .char 'ſ' ∈ a.toList ↔ .char 'ſ' ∉ b.toList) : ReadApart policy a b (.boolean x)
  | number {x : Number} (h : policy.numericStrings = true)
      (hword : Text.fold (Text.trim a.toList) ∈ infinities)
      (hletter : .char 'ﬁ' ∈ a.toList ↔ .char 'ﬁ' ∉ b.toList) : ReadApart policy a b (.number x)

/-- Strings are compared with anything but a string by what they can be read as. -/
theorem coercePair_string_congr (hv : v.kind ≠ .string)
    (hnumber : v.kind = .number →
      (Value.string a).toNumber? policy = (Value.string b).toNumber? policy)
    (hboolean : v.kind = .boolean →
      (Value.string a).toBoolean? policy = (Value.string b).toBoolean? policy) :
    coercePair policy (.string a) v = coercePair policy (.string b) v := by
  have hnone {α : Type} (f : α → Value) (x : Option α) : pairOf f x none = none := by
    cases x <;> rfl
  have hkind (s : Text) : (Value.string s).kind ≠ v.kind := hv.symm
  rw [coercePair_of_kind_ne (hkind a), coercePair_of_kind_ne (hkind b)]
  cases v with
  | string s => exact absurd rfl hv
  | number n =>
    have hn : (Value.number n).toBoolean? policy = none := rfl
    rw [hnumber rfl, hn, hnone, hnone]
  | boolean x =>
    have hx : (Value.boolean x).toNumber? policy = none := rfl
    rw [hboolean rfl, hx, hnone, hnone]
  | absent =>
    have hneither : Value.absent.toNumber? policy = none ∧ Value.absent.toBoolean? policy = none :=
      ⟨rfl, rfl⟩
    rw [hneither.1, hneither.2, hnone, hnone, hnone, hnone]

theorem holds?_strings_congr {a' b' : Text} (ha : ctx.fold a = ctx.fold a')
    (hb : ctx.fold b = ctx.fold b') (op : ComparisonOperator) :
    holds? ctx op (.string a) (.string b) = holds? ctx op (.string a') (.string b') := by
  cases hop : op.stringTest? with
  | some test => rw [holds?_string hop, holds?_string hop, onStrings, onStrings, ha, hb]
  | none =>
    have hpair (s t : Text) :
        coercePair ctx.policy (.string s) (.string t) = some (.string s, .string t) :=
      coercePair_of_kind_eq rfl
    refine holds?_congr_of_coercePair ?_ (fun test _ => ?_) hop
    · simp [hpair, sameValue, ha, hb]
    · rw [hpair, hpair]
      rfl

theorem holds?_congr_of_not_string {l r l' r' : Value} (hs : l.kind ≠ .string ∨ r.kind ≠ .string)
    (hs' : l'.kind ≠ .string ∨ r'.kind ≠ .string)
    (hpair : coercePair ctx.policy l r = coercePair ctx.policy l' r') (op : ComparisonOperator) :
    holds? ctx op l r = holds? ctx op l' r' := by
  cases hop : op.stringTest? with
  | some test =>
    have hnone {l r : Value} (hs : l.kind ≠ .string ∨ r.kind ≠ .string) :
        onStrings ctx test l r = none := by
      cases l <;> cases r <;> simp_all [onStrings, Value.kind]
    rw [holds?_string hop, holds?_string hop, hnone hs, hnone hs']
  | none => exact holds?_congr_of_coercePair (by rw [hpair]) (fun test _ => by rw [hpair]) hop

/-- Strings that fold alike and read alike are interchangeable. -/
theorem interchangeable_of_reading (hfold : ctx.fold a = ctx.fold b)
    (hnumber : v.kind = .number →
      (Value.string a).toNumber? ctx.policy = (Value.string b).toNumber? ctx.policy)
    (hboolean : v.kind = .boolean →
      (Value.string a).toBoolean? ctx.policy = (Value.string b).toBoolean? ctx.policy) :
    Interchangeable ctx (.string a) (.string b) v := by
  have hlong : (Value.string a).IsOverlong ↔ (Value.string b).IsOverlong :=
    iff_of_false (Value.not_isOverlong_string a) (Value.not_isOverlong_string b)
  refine fun d => ⟨verdict_congr rfl rfl (or_congr hlong .rfl) fun op _ => ?_,
    verdict_congr rfl rfl (or_congr .rfl hlong) fun op _ => ?_⟩
  · by_cases hv : v.kind = .string
    · cases v <;> cases hv
      exact holds?_strings_congr hfold rfl op
    · exact holds?_congr_of_not_string (.inr hv) (.inr hv)
        (coercePair_string_congr hv hnumber hboolean) op
  · by_cases hv : v.kind = .string
    · cases v <;> cases hv
      exact holds?_strings_congr rfl hfold op
    · refine holds?_congr_of_not_string (.inl hv) (.inl hv) ?_ op
      rw [coercePair_swap _ (.string a), coercePair_swap _ (.string b),
        coercePair_string_congr hv hnumber hboolean]

theorem toNumber?_eq_of_fold {x : Number} (hfold : Text.fold a.toList = Text.fold b.toList)
    (h : ¬ ReadApart policy a b (.number x)) :
    (Value.string a).toNumber? policy = (Value.string b).toNumber? policy := by
  rw [Value.toNumber?, Value.toNumber?]
  split
  · next hpolicy =>
    have hnot : ¬ (Text.fold (Text.trim a.toList) ∈ infinities ∧
        (.char 'ﬁ' ∈ a.toList ↔ .char 'ﬁ' ∉ b.toList)) := by
      rintro ⟨hword, hletter⟩
      exact h (.number hpolicy hword hletter)
    rw [Number.read?_eq_of_fold hfold hnot]
  · rfl

theorem toBoolean?_eq_of_fold {x : Bool} (hfold : Text.fold a.toList = Text.fold b.toList)
    (h : ¬ ReadApart policy a b (.boolean x)) :
    (Value.string a).toBoolean? policy = (Value.string b).toBoolean? policy := by
  have htrim := Text.fold_trim_congr hfold
  rw [Value.toBoolean?, Value.toBoolean?]
  split
  · next hpolicy =>
    have htrue : normalWord a = "true" ↔ normalWord b = "true" := by
      rw [normalWord_eq_true_iff, normalWord_eq_true_iff, htrim]
    have hfalse : normalWord a = "false" ↔ normalWord b = "false" := by
      rw [normalWord_eq_false_iff, normalWord_eq_false_iff, htrim]
      refine and_congr_right fun hword => ?_
      by_contra hletter
      rw [not_iff, not_not] at hletter
      exact h (.boolean hpolicy (htrim.trans hword) hletter)
    simp only [htrue, hfalse]
  · rfl

/-! ### Strings told apart -/

theorem Interchangeable.symm {l r : Value} (h : Interchangeable ctx l r v) :
    Interchangeable ctx r l v := fun d => ⟨(h d).1.symm, (h d).2.symm⟩

/-- A value that one string can be compared with and another cannot tells the two apart. -/
theorem not_interchangeable_of_coercePair {p : Value × Value} (hv : v.isAbsent = false)
    (ha : coercePair ctx.policy (.string a) v = some p)
    (hb : coercePair ctx.policy (.string b) v = none)
    (hlong : v.IsOverlong → sameValue ctx p.1 p.2 = false) :
    ¬ Interchangeable ctx (.string a) (.string b) v := by
  intro h
  have hverdict := (h (.symbol (.comparison .notEquals))).1
  have hop := ComparisonOperator.ofDatum?_symbol .notEquals
  have hnot (s : Text) : ¬ (Value.string s).IsOverlong := Value.not_isOverlong_string s
  have hpresent (s : Text) : ((Value.string s).isAbsent || v.isAbsent) = false := hv
  rw [verdict_of_present hop (hpresent a), verdict_of_present hop (hpresent b),
    holds?_notEquals, holds?_notEquals, ha, hb] at hverdict
  cases hsame : sameValue ctx p.1 p.2 with
  | false =>
    simp only [Option.map_some, Option.map_none, hsame, Bool.not_false, failing] at hverdict
    split at hverdict <;> simp at hverdict
  | true =>
    -- Both come to a failure, whose type tells the two apart.
    have hv : ¬ v.IsOverlong := fun hv => by simp [hlong hv] at hsame
    simp [hsame, failing, hnot, hv] at hverdict

theorem not_interchangeable_boolean {x : Bool} (hpolicy : ctx.policy.booleanStrings = true)
    (hfold : Text.fold a.toList = Text.fold b.toList)
    (hword : Text.fold (Text.trim a.toList) = ("false" : Text).toList) (ha : .char 'ſ' ∉ a.toList)
    (hb : .char 'ſ' ∈ b.toList) : ¬ Interchangeable ctx (.string a) (.string b) (.boolean x) := by
  have hread : (Value.string a).toBoolean? ctx.policy = some false := by
    have hfalse : normalWord a = "false" := (normalWord_eq_false_iff a).2 ⟨hword, ha⟩
    simp [Value.toBoolean?, hpolicy, hfalse]
  have hunread : (Value.string b).toBoolean? ctx.policy = none := by
    have htrue : normalWord b ≠ "true" := by
      rw [ne_eq, normalWord_eq_true_iff, ← Text.fold_trim_congr hfold, hword]
      decide
    have hfalse : normalWord b ≠ "false" := fun h => ((normalWord_eq_false_iff b).1 h).2 hb
    simp [Value.toBoolean?, htrue, hfalse]
  refine not_interchangeable_of_coercePair rfl (coercePair_eq_booleans_iff.2
    ⟨hread, rfl, by simp [Value.kind]⟩) ?_ (by simp [Value.IsOverlong])
  rw [coercePair_of_kind_ne (by simp [Value.kind]), hunread]
  simp [pairOf, Value.toNumber?]

theorem not_interchangeable_number {x : Number} (hpolicy : ctx.policy.numericStrings = true)
    (hword : Text.fold (Text.trim a.toList) ∈ infinities) (ha : .char 'ﬁ' ∉ a.toList)
    (hb : .char 'ﬁ' ∈ b.toList) : ¬ Interchangeable ctx (.string a) (.string b) (.number x) := by
  obtain ⟨negative, hinfinite⟩ := Number.read?_of_infinity hword ha
  have hread : (Value.string a).toNumber? ctx.policy = some (.double (.infinite negative)) := by
    simp [Value.toNumber?, hpolicy, hinfinite, Option.filter, Number.isNaN, Double.isNaN]
  have hunread : (Value.string b).toNumber? ctx.policy = none := by
    simp [Value.toNumber?, Number.read?_of_mem_ligature hb]
  refine not_interchangeable_of_coercePair rfl (coercePair_eq_numbers_iff.2
    ⟨hread, rfl, by simp [Value.kind]⟩) ?_ ?_
  · rw [coercePair_of_kind_ne (by simp [Value.kind]), hunread]
    simp [pairOf, Value.toBoolean?]
  · rintro ⟨n, hn, -⟩
    cases hn
    cases negative <;> rfl

/-- Strings that are equal where case does not count are interchangeable, except before a truth
value or a number that one of them is read for and the other is not. -/
theorem interchangeable_iff (hcase : ctx.ignoresCase = true)
    (h : Succeeds ctx .equals (.string a) (.string b)) (v : Value) :
    Interchangeable ctx (.string a) (.string b) v ↔ ¬ ReadApart ctx.policy a b v := by
  have hfold : Text.fold a.toList = Text.fold b.toList := by
    rw [succeeds_equals_strings_iff] at h
    simpa [Context.fold, hcase] using h
  have htrim := Text.fold_trim_congr hfold
  constructor
  · rintro hsame (⟨hpolicy, hword, hletter⟩ | ⟨hpolicy, hword, hletter⟩)
    · by_cases hmem : .char 'ſ' ∈ a.toList
      · rw [htrim] at hword
        exact not_interchangeable_boolean hpolicy hfold.symm hword (hletter.1 hmem) hmem hsame.symm
      · exact not_interchangeable_boolean hpolicy hfold hword hmem (by_contra fun hb =>
          hmem (hletter.2 hb)) hsame
    · by_cases hmem : .char 'ﬁ' ∈ a.toList
      · rw [htrim] at hword
        exact not_interchangeable_number hpolicy hword (hletter.1 hmem) hmem hsame.symm
      · exact not_interchangeable_number hpolicy hword hmem (by_contra fun hb =>
          hmem (hletter.2 hb)) hsame
  · intro hread
    refine interchangeable_of_reading ((succeeds_equals_strings_iff a b).1 h) (fun hv => ?_)
      (fun hv => ?_)
    · cases v <;> cases hv
      exact toNumber?_eq_of_fold hfold hread
    · cases v <;> cases hv
      exact toBoolean?_eq_of_fold hfold hread

/-- A long s makes a difference to a truth value and none to a number. -/
theorem interchangeable_long_s :
    let ctx : Context := ⟨fun _ => .ok .null, .empty, .known .caseInsensitive, {}⟩
    Succeeds ctx .equals (.string " FALSE") (.string " falſe") ∧
      ¬ Interchangeable ctx (.string " FALSE") (.string " falſe") (.boolean true) ∧
      Interchangeable ctx (.string " FALSE") (.string " falſe") (.number (.int 0)) := by
  intro ctx
  have hequal : Succeeds ctx .equals (.string " FALSE") (.string " falſe") :=
    (succeeds_equals_strings_iff _ _).2 (by decide +kernel)
  have hiff := interchangeable_iff rfl hequal
  have happart : ReadApart ctx.policy " FALSE" " falſe" (.boolean true) :=
    .boolean rfl (by decide +kernel) (by decide +kernel)
  refine ⟨hequal, fun h => (hiff _).1 h happart, (hiff _).2 ?_⟩
  rintro (_ | ⟨-, hword, -⟩)
  revert hword
  decide +kernel

/-- Equal strings need not be interchangeable: one of these two names the truth value it is
compared with, and the other names nothing. -/
theorem equal_not_interchangeable :
    let ctx : Context := ⟨fun _ => .ok .null, .empty, .known .caseInsensitive, {}⟩
    ctx.ignoresCase = true ∧ Succeeds ctx .equals (.string "falſe") (.string "false") ∧
      verdict ctx (.string "false") (.string "equals") (.boolean false) = .ok (true, none) ∧
      verdict ctx (.string "falſe") (.string "equals") (.boolean false) =
        .ok (false, some .typeMismatched) := by
  intro ctx
  have hop : ComparisonOperator.ofDatum? (.string "equals") = some .equals := by decide +kernel
  have hholds : holds? ctx .equals (.string "false") (.boolean false) = some true := by
    decide +kernel
  have hnone : holds? ctx .equals (.string "falſe") (.boolean false) = none := by decide +kernel
  refine ⟨rfl, (succeeds_equals_strings_iff _ _).2 (by decide +kernel), ?_, ?_⟩
  · rw [verdict_of_present hop rfl, hholds]
  · rw [verdict_of_present hop rfl, hnone]
    simp [failing, Value.IsOverlong]

end Verdict
