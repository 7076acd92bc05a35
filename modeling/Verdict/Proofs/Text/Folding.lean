import Verdict.Proofs.Text.CharTable
import Verdict.Proofs.Text.Trim

/-! Folding. Each character is folded by itself, so what stands in a text also stands, folded, in
the folded text. Blanks fold to blanks, and plain texts to their lower case. -/

namespace Verdict.Text

variable {a b cs word : List Point} {c : Point}

/-! ### Parts -/

theorem fold_append (a b : List Point) : fold (a ++ b) = fold a ++ fold b := List.flatMap_append

theorem fold_prefix (h : a <+: b) : fold a <+: fold b := by
  obtain ⟨rest, rfl⟩ := h
  exact ⟨fold rest, (fold_append a rest).symm⟩

theorem fold_suffix (h : a <:+ b) : fold a <:+ fold b := by
  obtain ⟨start, rfl⟩ := h
  exact ⟨fold start, (fold_append start a).symm⟩

theorem fold_infix (h : a <:+: b) : fold a <:+: fold b := by
  obtain ⟨start, rest, rfl⟩ := h
  exact ⟨fold start, fold rest, by rw [fold_append, fold_append]⟩

/-- A character together with what it folds to, in a text. -/
theorem fold_infix_of_mem (h : c ∈ cs) : fold [c] <:+: fold cs := by
  obtain ⟨before, after, rfl⟩ := List.append_of_mem h
  exact fold_infix ⟨before, after, by simp⟩

theorem fold_singleton (c : Point) : fold [c] = remap foldShifts foldExpansions c := by
  rw [fold, List.flatMap_singleton]

theorem fold_singleton_ne_nil (c : Point) : fold [c] ≠ [] := by
  rw [fold_singleton]
  exact plainFrom_fold.remap_ne_nil c

/-! ### Characters that stay -/

/-- A blank or a digit of any script, which folds to itself and which nothing else folds to. -/
theorem fold_singleton_of_spared {d : Point} (hd : d = c ∨ d ∈ fold [c])
    (h : isBlank d = true ∨ (digitWorth? d).isSome) : fold [c] = [c] := by
  have hblanks : ∀ n ∈ blanks, ∃ block ∈ spared, block.1 ≤ n ∧ n ≤ block.2 := by decide +kernel
  have hdigits : ∀ z ∈ zeroDigits, ∃ block ∈ spared, block.1 ≤ z ∧ z + 9 ≤ block.2 := by
    decide +kernel
  have hpos : ∀ block ∈ spared, 0 < block.1 := by decide
  obtain ⟨block, hblock, hin⟩ : ∃ block ∈ spared, block.1 ≤ d.toNat ∧ d.toNat ≤ block.2 := by
    rcases h with h | h
    · exact hblanks _ (List.contains_iff_mem.1 h)
    · rw [digitWorth?, Option.isSome_map] at h
      obtain ⟨z, hz⟩ := Option.isSome_iff_exists.1 h
      obtain ⟨block, hblock, hlow, hhigh⟩ := hdigits z (List.mem_of_find?_eq_some hz)
      have hrow := List.find?_some hz
      simp only [Bool.and_eq_true, decide_eq_true_eq] at hrow
      exact ⟨block, hblock, by omega, by omega⟩
  rw [fold_singleton] at hd ⊢
  exact remap_of_spares (spares_fold block hblock) (hpos block hblock) hd hin

theorem fold_of_blank (h : Blank cs) : fold cs = cs := by
  induction cs with
  | nil => rfl
  | cons c cs ih =>
    have hc := fold_singleton_of_spared (.inl rfl) (.inl (h c List.mem_cons_self))
    rw [← List.singleton_append, fold_append, hc, ih fun d hd => h d (List.mem_cons_of_mem _ hd)]

theorem isBlank_of_mem_fold {d : Point} (hd : d ∈ fold [c]) (h : isBlank d = true) :
    isBlank c = true := by
  have hc := fold_singleton_of_spared (.inr hd) (.inl h)
  rw [hc, List.mem_singleton] at hd
  rwa [← hd]

/-- A blank at an end of the folded text would be one at that end of the text. -/
theorem trimmed_fold (h : Trimmed cs) : Trimmed (fold cs) := by
  constructor
  · intro d hd
    cases cs with
    | nil => cases hd
    | cons c cs =>
      rw [← List.singleton_append, fold_append, List.head?_append,
        List.head?_eq_some_head (fold_singleton_ne_nil c), Option.some_or] at hd
      obtain rfl := Option.mem_some_iff.1 hd
      rw [← Bool.not_eq_true]
      intro hblank
      have hc := isBlank_of_mem_fold (List.head_mem _) hblank
      rw [h.head c rfl] at hc
      cases hc
  · intro d hd
    rcases cs.eq_nil_or_concat with rfl | ⟨start, c, rfl⟩
    · cases hd
    · rw [List.concat_eq_append] at h hd
      rw [fold_append, List.getLast?_append,
        List.getLast?_eq_some_getLast (fold_singleton_ne_nil c), Option.some_or] at hd
      obtain rfl := Option.mem_some_iff.1 hd
      rw [← Bool.not_eq_true]
      intro hblank
      have hc := isBlank_of_mem_fold (List.getLast_mem _) hblank
      rw [h.last c (by simp)] at hc
      cases hc

/-- Trimming and folding do not get in each other's way. -/
theorem trim_fold (cs : List Point) : trim (fold cs) = fold (trim cs) := by
  obtain ⟨w, v, hw, hv, hcs⟩ := exists_eq_trim cs
  have hfold := congrArg fold hcs
  rw [fold_append, fold_append, fold_of_blank hw, fold_of_blank hv] at hfold
  rw [hfold, trim_append hw (trimmed_fold (trimmed_trim cs)) hv]

theorem fold_trim_congr (h : fold a = fold b) : fold (trim a) = fold (trim b) := by
  rw [← trim_fold, h, trim_fold]

/-! ### Plain texts -/

/-- Nothing but plain characters. -/
def Plain (cs : List Point) : Prop := ∀ c ∈ cs, c.toNat < 128

instance (cs : List Point) : Decidable (Plain cs) := decidableForallMem _ cs

theorem fold_of_forall (h : ∀ c ∈ cs, fold [c] = [c.toLower]) : fold cs = cs.map Point.toLower := by
  induction cs with
  | nil => rfl
  | cons c cs ih =>
    rw [← List.singleton_append, fold_append, h c List.mem_cons_self,
      ih fun d hd => h d (List.mem_cons_of_mem _ hd)]
    rfl

theorem fold_of_plain (h : Plain cs) : fold cs = cs.map Point.toLower :=
  fold_of_forall fun c hc => (fold_singleton c).trans (lowersPlain_fold.remap_of_plain (h c hc))

theorem toLower_of_plain_text (h : Plain cs) : toLower cs = cs.map Point.toLower := by
  induction cs with
  | nil => rfl
  | cons c cs ih =>
    rw [toLower, List.flatMap_cons, lowersPlain_lower.remap_of_plain (h c List.mem_cons_self),
      ← toLower, ih fun d hd => h d (List.mem_cons_of_mem _ hd)]
    rfl

/-- A text in lower case is a plain word if it is that word in plain letters of either case. -/
theorem toLower_eq_iff (hword : Plain word)
    (hsources : ∀ n ∈ lowerSources, ¬ remap lowerShifts lowerExpansions (Point.ofNat n) <:+: word) :
    toLower cs = word ↔ Plain cs ∧ cs.map Point.toLower = word := by
  constructor
  · intro h
    have hplain : Plain cs :=
      plainFrom_lower.plain_of_flatMap_eq hword h fun n hn hpart => absurd hpart (hsources n hn)
    exact ⟨hplain, (toLower_of_plain_text hplain).symm.trans h⟩
  · rintro ⟨hplain, h⟩
    exact (toLower_of_plain_text hplain).trans h

/-- A text folds to a plain word without other letters in it if it is that word in plain letters. -/
theorem fold_eq_iff (others : List Point) (hword : Plain word)
    (hothers : ∀ c ∈ others, ¬ c.toNat < 128)
    (hsources : ∀ n ∈ foldSources, fold [Point.ofNat n] <:+: word → Point.ofNat n ∈ others) :
    (fold cs = word ∧ ∀ c ∈ others, c ∉ cs) ↔ Plain cs ∧ cs.map Point.toLower = word := by
  constructor
  · rintro ⟨h, hcs⟩
    have hplain : Plain cs := plainFrom_fold.plain_of_flatMap_eq hword h fun n hn hpart =>
      hcs _ (hsources n hn (by rwa [fold_singleton]))
    exact ⟨hplain, (fold_of_plain hplain).symm.trans h⟩
  · rintro ⟨hplain, h⟩
    exact ⟨(fold_of_plain hplain).trans h, fun c hc hmem => hothers c hc (hplain c hmem)⟩

end Verdict.Text
