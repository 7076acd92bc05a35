import Verdict.Proofs.Number.Numeral
import Verdict.Proofs.Text.Folding
import Verdict.Vocabulary

/-! The words for truth values. They are read in lower case, which takes nothing but plain letters
to plain letters here, and neither of them is a number. -/

namespace Verdict

attribute [local instance] decidableForallMem

theorem normalWord_eq_iff {s word : Text} (hword : Text.Plain word.toList)
    (hsources : ∀ n ∈ Text.lowerSources,
      ¬ Text.remap Text.lowerShifts Text.lowerExpansions (Point.ofNat n) <:+: word.toList) :
    normalWord s = word ↔ Text.Plain (Text.trim s.toList) ∧
      (Text.trim s.toList).map Point.toLower = word.toList := by
  rw [← Text.toLower_eq_iff hword hsources, normalWord, Text.ofList_eq]

theorem normalWord_eq_true_iff (s : Text) :
    normalWord s = "true" ↔ Text.fold (Text.trim s.toList) = ("true" : Text).toList := by
  have hword : Text.Plain ("true" : Text).toList := by decide
  rw [normalWord_eq_iff hword (by decide +kernel),
    ← Text.fold_eq_iff [] hword (by decide) (by decide +kernel)]
  simp

/-- The long s folds to an s, and is its own lower case. -/
theorem normalWord_eq_false_iff (s : Text) : normalWord s = "false" ↔
    Text.fold (Text.trim s.toList) = ("false" : Text).toList ∧ .char 'ſ' ∉ s.toList := by
  have hword : Text.Plain ("false" : Text).toList := by decide
  have hblank : Text.isBlank 'ſ' = false := by decide +kernel
  rw [normalWord_eq_iff hword (by decide +kernel),
    ← Text.fold_eq_iff [.char 'ſ'] hword (by decide) (by decide +kernel),
    ← Text.mem_trim_iff hblank]
  simp

/-- A word for a truth value is no number. -/
theorem Number.read?_of_truthWord {s : Text}
    (h : normalWord s = "true" ∨ normalWord s = "false") :
    Number.read? s.toList = none := by
  have hspelt : (Text.trim s.toList).map Point.toLower ∈
      [("true" : Text).toList, ("false" : Text).toList] := by
    rw [normalWord_eq_iff (by decide) (by decide +kernel),
      normalWord_eq_iff (by decide) (by decide +kernel)] at h
    rcases h with ⟨-, h⟩ | ⟨-, h⟩ <;> simp [h]
  rw [← Option.not_isSome_iff_eq_none]
  intro hsome
  rcases isFigure_or_mem_names hsome with hfigures | hname
  · have hwords : ∀ word ∈ [("true" : Text).toList, ("false" : Text).toList],
        ¬ ∀ c ∈ word, Numeral.IsFigure c := by
      decide +kernel
    refine hwords _ hspelt fun d hd => ?_
    obtain ⟨c, hc, rfl⟩ := List.mem_map.1 hd
    exact Numeral.isFigure_toLower (hfigures c hc)
  · have hwords : ∀ word ∈ [("true" : Text).toList, ("false" : Text).toList],
        word ∉ Numeral.names := by
      decide +kernel
    exact hwords _ hspelt hname

end Verdict
