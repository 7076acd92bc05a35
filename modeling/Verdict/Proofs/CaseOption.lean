import Verdict.Proofs.Agreement
import Verdict.Proofs.Text.Folding
import Verdict.Proofs.Verdicts

/-! Comparing without regard to case. Two strings that match where case counts still match where
it does not; nothing else depends on whether it counts. -/

namespace Verdict

variable {policy : Policy} {exact loose : Context} {op : ComparisonOperator} {l r : Value}

/-! ### Strings -/

theorem occursIn_iff (part cs : List Point) : occursIn part cs = true ↔ part <:+: cs := by
  induction cs with
  | nil => simp [occursIn]
  | cons c cs ih =>
    rw [occursIn, Bool.or_eq_true, List.isPrefixOf_iff_prefix, ih, List.infix_cons_iff]

theorem succeeds_notEquals_strings_iff {ctx : Context} (s t : Text) :
    Succeeds ctx .notEquals (.string s) (.string t) ↔ ctx.fold s ≠ ctx.fold t := by
  have hpair : coercePair ctx.policy (.string s) (.string t) = some (.string s, .string t) :=
    coercePair_of_kind_eq rfl
  rw [succeeds_notEquals_iff]
  simp [hpair, sameValue]

/-- A test on strings that folding both of them cannot make fail. -/
def KeptByFold (test : List Point → List Point → Bool) : Prop :=
  ∀ s t, test s t = true → test (Text.fold s) (Text.fold t) = true

theorem keptByFold_startsWith : KeptByFold fun s t => t.isPrefixOf s := by
  intro s t h
  exact List.isPrefixOf_iff_prefix.2 (Text.fold_prefix (List.isPrefixOf_iff_prefix.1 h))

theorem keptByFold_endsWith : KeptByFold fun s t => t.isSuffixOf s := by
  intro s t h
  exact List.isSuffixOf_iff_suffix.2 (Text.fold_suffix (List.isSuffixOf_iff_suffix.1 h))

theorem keptByFold_contains : KeptByFold fun s t => occursIn t s := by
  intro s t h
  exact (occursIn_iff _ _).2 (Text.fold_infix ((occursIn_iff _ _).1 h))

/-! ### Two contexts -/

/-- Two contexts of one policy; case counts in the first and not in the second. -/
structure CaseDropped (exact loose : Context) : Prop where
  policy : exact.policy = loose.policy
  exact : exact.ignoresCase = false
  loose : loose.ignoresCase = true

namespace CaseDropped

variable (h : CaseDropped exact loose)

include h

theorem fold_exact (s : Text) : exact.fold s = s.toList := by
  simp [Context.fold, h.exact]

theorem fold_loose (s : Text) : loose.fold s = Text.fold s.toList := by
  simp [Context.fold, h.loose]

/-- A test that folding keeps holds without regard to case wherever it holds with it. -/
theorem succeeds_loose_of_keptByFold {test : List Point → List Point → Bool}
    (htest : op.stringTest? = some test) (hkept : KeptByFold test)
    (hexact : Succeeds exact op l r) : Succeeds loose op l r := by
  obtain ⟨s, t, hl, hr, hst⟩ := (succeeds_string_iff htest).1 hexact
  rw [h.fold_exact, h.fold_exact] at hst
  refine (succeeds_string_iff htest).2 ⟨s, t, hl, hr, ?_⟩
  rw [h.fold_loose, h.fold_loose]
  exact hkept _ _ hst

theorem succeeds_exact_notContains (hloose : Succeeds loose .notContains l r) :
    Succeeds exact .notContains l r := by
  obtain ⟨s, t, hl, hr, hst⟩ := (succeeds_string_iff rfl).1 hloose
  rw [h.fold_loose, h.fold_loose, Bool.not_eq_true'] at hst
  refine (succeeds_string_iff rfl).2 ⟨s, t, hl, hr, ?_⟩
  rw [h.fold_exact, h.fold_exact, Bool.not_eq_true', ← Bool.not_eq_true]
  intro hmatch
  have hfolded : occursIn (Text.fold t.toList) (Text.fold s.toList) = true :=
    keptByFold_contains s.toList t.toList hmatch
  rw [hst] at hfolded
  cases hfolded

/-! ### Where case has no say -/

theorem holds?_order_eq {test : Number → Number → Bool} (htest : op.orderTest? = some test)
    (l r : Value) : holds? exact op l r = holds? loose op l r := by
  rw [holds?_order htest, holds?_order htest, h.policy]

/-- Unless they were two strings, two values are not compared as strings. -/
theorem map_sameValue_eq (hs : ¬ (l.kind = .string ∧ r.kind = .string)) (f : Bool → Bool) :
    ((coercePair exact.policy l r).map fun p => f (sameValue exact p.1 p.2)) =
      (coercePair loose.policy l r).map fun p => f (sameValue loose p.1 p.2) := by
  rw [h.policy]
  cases hpair : coercePair loose.policy l r with
  | none => rfl
  | some p =>
    obtain ⟨a, b⟩ := p
    cases coercePair_eq_some_iff.1 hpair with
    | same _ => cases l <;> cases r <;> simp_all [Value.kind, sameValue]
    | numbers _ _ _ => rfl
    | booleans _ _ _ => rfl

theorem holds?_eq_of_not_strings (hs : ¬ (l.kind = .string ∧ r.kind = .string))
    (op : ComparisonOperator) : holds? exact op l r = holds? loose op l r := by
  cases op with
  | equals =>
    rw [holds?_equals, holds?_equals]
    exact h.map_sameValue_eq hs id
  | notEquals =>
    rw [holds?_notEquals, holds?_notEquals]
    exact h.map_sameValue_eq hs not
  | greaterThan | greaterEqual | lessThan | lessEqual => exact h.holds?_order_eq rfl l r
  | startsWith | endsWith | contains | notContains =>
    rw [holds?_string rfl, holds?_string rfl]
    cases l <;> cases r <;> simp_all [onStrings, Value.kind]

/-- Whether an operator can be applied to two values at all. -/
theorem isSome_holds?_eq (op : ComparisonOperator) (l r : Value) :
    (holds? exact op l r).isSome = (holds? loose op l r).isSome := by
  by_cases hs : l.kind = .string ∧ r.kind = .string
  · obtain ⟨hl, hr⟩ := hs
    cases op with
    | equals | notEquals =>
      simp [holds?_equals, holds?_notEquals, coercePair_of_kind_eq (hl.trans hr.symm)]
    | greaterThan | greaterEqual | lessThan | lessEqual => rw [h.holds?_order_eq rfl l r]
    | startsWith | endsWith | contains | notContains =>
      cases l <;> cases hl
      cases r <;> cases hr
      rfl
  · rw [h.holds?_eq_of_not_strings hs]

theorem compare_eq {d : Datum}
    (hholds : ∀ op, ComparisonOperator.ofDatum? d = some op →
      holds? exact op l r = holds? loose op l r) :
    compare exact l d r = compare loose l d r := by
  rw [compare, compare, h.policy]
  cases hop : ComparisonOperator.ofDatum? d with
  | none => rfl
  | some op => simp only [hholds op hop]

end CaseDropped

/-! ### Outcomes -/

/-- A comparison that can be made either succeeds or fails because its condition does not hold. -/
theorem type_of_isSome_holds? {ctx : Context} {d : Datum} {reason : Text} {type : FailureType}
    (hop : ComparisonOperator.ofDatum? d = some op) (habsent : (l.isAbsent || r.isAbsent) = false)
    (hholds : (holds? ctx op l r).isSome)
    (h : (compare ctx l d r).outcome = .ok (.failure reason type)) : type = .conditionFailed := by
  have hverdict : verdict ctx l d r = _ := verdict_of_present hop habsent
  rw [verdict, h] at hverdict
  rcases hb : holds? ctx op l r with _ | (_ | _)
  · simp [hb] at hholds
  · rw [hb] at hverdict
    dsimp only at hverdict
    by_cases hlong : l.IsOverlong ∨ r.IsOverlong
    · rw [failing, if_pos hlong] at hverdict
      cases hverdict
    · rw [failing, if_neg hlong] at hverdict
      cases hverdict
      rfl
  · rw [hb] at hverdict
    cases hverdict

theorem CaseDropped.types_iff (h : CaseDropped exact loose) (d : Datum) {reason : Text}
    {type : FailureType} (htype : type ≠ .conditionFailed) :
    (compare exact l d r).outcome = .ok (.failure reason type) ↔
      (compare loose l d r).outcome = .ok (.failure reason type) := by
  cases hop : ComparisonOperator.ofDatum? d with
  | none => rw [h.compare_eq (by simp [hop])]
  | some op =>
    cases habsent : l.isAbsent || r.isAbsent with
    | true =>
      have hs : ¬ (l.kind = .string ∧ r.kind = .string) := by
        rintro ⟨hl, hr⟩
        cases l <;> cases hl
        cases r <;> cases hr
        cases habsent
      rw [h.compare_eq fun op _ => h.holds?_eq_of_not_strings hs op]
    | false =>
      have hsame := h.isSome_holds?_eq op l r
      cases hsome : (holds? exact op l r).isSome with
      | true =>
        constructor
        · exact fun hexact => absurd (type_of_isSome_holds? hop habsent hsome hexact) htype
        · rw [hsome] at hsame
          exact fun hloose => absurd (type_of_isSome_holds? hop habsent hsame.symm hloose) htype
      | false =>
        -- Where the operator cannot be applied, neither context holds or fails to hold.
        rw [hsome] at hsame
        have hnone := Option.isSome_eq_false_iff.1 hsome
        have hnone' := Option.isSome_eq_false_iff.1 hsame.symm
        rw [Option.isNone_iff_eq_none] at hnone hnone'
        have hholds : ∀ op', ComparisonOperator.ofDatum? d = some op' →
            holds? exact op' l r = holds? loose op' l r := by
          intro op' hop'
          cases hop.symm.trans hop'
          rw [hnone, hnone']
        rw [h.compare_eq hholds]

/-- What becomes of a comparison when case no longer counts. -/
structure Widens (exact loose : Context) (l r : Value) : Prop where
  gained (op : ComparisonOperator) (hop : op ∈ [.equals, .startsWith, .endsWith, .contains])
    (h : Succeeds exact op l r) : Succeeds loose op l r
  lost (op : ComparisonOperator) (hop : op ∈ [.notEquals, .notContains])
    (h : Succeeds loose op l r) : Succeeds exact op l r
  /-- Order, and whatever is not about two strings, comes out the same to the last word. -/
  unchanged (d : Datum)
    (h : (∃ op, ComparisonOperator.ofDatum? d = some op ∧ op.orderTest?.isSome) ∨
      ¬ (l.kind = .string ∧ r.kind = .string)) :
    compare exact l d r = compare loose l d r
  /-- Failures other than of the condition itself stay, and no new ones come up. -/
  types (d : Datum) (reason : Text) (type : FailureType)
    (h : type ∈ [.missingOperator, .invalidOperand, .typeMismatched]) :
    (compare exact l d r).outcome = .ok (.failure reason type) ↔
      (compare loose l d r).outcome = .ok (.failure reason type)

namespace CaseDropped

variable (h : CaseDropped exact loose)

include h

theorem succeeds_loose_equals (hexact : Succeeds exact .equals l r) :
    Succeeds loose .equals l r := by
  by_cases hs : l.kind = .string ∧ r.kind = .string
  · obtain ⟨hl, hr⟩ := hs
    cases l <;> cases hl
    cases r <;> cases hr
    rw [succeeds_equals_strings_iff, h.fold_exact, h.fold_exact] at hexact
    rw [succeeds_equals_strings_iff, h.fold_loose, h.fold_loose, hexact]
  · rw [Succeeds, ← h.compare_eq fun op _ => h.holds?_eq_of_not_strings hs op]
    exact hexact

theorem succeeds_exact_notEquals (hloose : Succeeds loose .notEquals l r) :
    Succeeds exact .notEquals l r := by
  by_cases hs : l.kind = .string ∧ r.kind = .string
  · obtain ⟨hl, hr⟩ := hs
    cases l <;> cases hl
    cases r <;> cases hr
    rw [succeeds_notEquals_strings_iff, h.fold_loose, h.fold_loose] at hloose
    rw [succeeds_notEquals_strings_iff, h.fold_exact, h.fold_exact]
    exact fun hst => hloose (congrArg Text.fold hst)
  · rw [Succeeds, h.compare_eq fun op _ => h.holds?_eq_of_not_strings hs op]
    exact hloose

end CaseDropped

/-- Dropping case widens the matches of strings, and changes nothing else. -/
theorem widens_of_caseDropped (h : CaseDropped exact loose) (l r : Value) :
    Widens exact loose l r where
  gained op hop hexact := by
    simp only [List.mem_cons, List.not_mem_nil, or_false] at hop
    rcases hop with rfl | rfl | rfl | rfl
    · exact h.succeeds_loose_equals hexact
    · exact h.succeeds_loose_of_keptByFold rfl keptByFold_startsWith hexact
    · exact h.succeeds_loose_of_keptByFold rfl keptByFold_endsWith hexact
    · exact h.succeeds_loose_of_keptByFold rfl keptByFold_contains hexact
  lost op hop hloose := by
    simp only [List.mem_cons, List.not_mem_nil, or_false] at hop
    rcases hop with rfl | rfl
    · exact h.succeeds_exact_notEquals hloose
    · exact h.succeeds_exact_notContains hloose
  unchanged d hd := by
    refine h.compare_eq fun op hop => ?_
    rcases hd with ⟨op', hop', horder⟩ | hs
    · cases hop.symm.trans hop'
      obtain ⟨test, htest⟩ := Option.isSome_iff_exists.1 horder
      exact h.holds?_order_eq htest l r
    · exact h.holds?_eq_of_not_strings hs op
  types d reason type htype := by
    refine h.types_iff d ?_
    rintro rfl
    cases htype with | tail _ h => cases h with | tail _ h => cases h with | tail _ h => cases h

/-- A sharp s at the end of a word is still there when it counts as two letters. -/
theorem widens_sharp_s :
    let exact : Context := ⟨fun _ => .ok .null, .empty, .known .default, {}⟩
    let loose : Context := ⟨fun _ => .ok .null, .empty, .known .caseInsensitive, {}⟩
    let l : Value := .string "Weiß"
    CaseDropped exact loose ∧ Succeeds loose .endsWith l (.string "ß") ∧
      Succeeds exact .notContains l (.string "T") ∧
      compare exact l (.string "<") (.string "ß") =
        compare loose l (.string "<") (.string "ß") := by
  intro exact loose l
  have hdropped : CaseDropped exact loose := ⟨rfl, rfl, rfl⟩
  have hends : Succeeds exact .endsWith l (.string "ß") :=
    (succeeds_string_iff rfl).2 ⟨_, _, rfl, rfl, by decide +kernel⟩
  have hlacks : Succeeds loose .notContains l (.string "T") :=
    (succeeds_string_iff rfl).2 ⟨_, _, rfl, rfl, by decide +kernel⟩
  have hwidens := widens_of_caseDropped hdropped l (.string "ß")
  refine ⟨hdropped, hwidens.gained .endsWith (by decide) hends, ?_, ?_⟩
  · exact (widens_of_caseDropped hdropped l (.string "T")).lost .notContains (by decide) hlacks
  · exact hwidens.unchanged _ (.inl ⟨.lessThan, by decide +kernel, rfl⟩)

end Verdict
