import Verdict.Token.Segment

/-! Where a marker first stands in a text. Cutting finds this place and no other, whatever
follows; and a text in which no opening marker is closed is not cut at all. So a text is one of
these, or it has a first span and goes on behind it. -/

namespace Verdict

/-- The marker stands at position `i` of the text and at none before. -/
structure FirstAt (marker text : List Point) (i : Nat) : Prop where
  occurs : marker <+: text.drop i
  first : ∀ j < i, ¬ marker <+: text.drop j

variable {marker text before after : List Point}

theorem firstAt_cons_succ {c : Point} {cs : List Point} {i : Nat} :
    FirstAt marker (c :: cs) (i + 1) ↔ ¬ marker <+: c :: cs ∧ FirstAt marker cs i := by
  constructor
  · rintro ⟨ho, hf⟩
    exact ⟨hf 0 i.succ_pos, ho, fun j hj => hf (j + 1) (Nat.succ_lt_succ hj)⟩
  · rintro ⟨hc, ho, hf⟩
    refine ⟨ho, fun j hj => ?_⟩
    cases j with
    | zero => exact hc
    | succ j => exact hf j (Nat.lt_of_succ_lt_succ hj)

/-- A place that is the first before a marker stays the first whatever follows the marker. -/
theorem FirstAt.append (h : FirstAt marker (before ++ marker) before.length) (rest : List Point) :
    FirstAt marker (before ++ marker ++ rest) before.length := by
  have hdrop : ∀ j ≤ before.length,
      (before ++ marker ++ rest).drop j = (before ++ marker).drop j ++ rest := fun j hj =>
    List.drop_append_of_le_length (by rw [List.length_append]; omega)
  constructor
  · rw [hdrop _ (Nat.le_refl _)]
    exact h.occurs.trans (List.prefix_append _ _)
  · intro j hj hp
    rw [hdrop j (Nat.le_of_lt hj)] at hp
    -- an earlier occurrence would end before `rest` begins
    refine h.first j hj (List.prefix_of_prefix_length_le hp (List.prefix_append _ _) ?_)
    rw [List.length_drop, List.length_append]
    omega

/-- Cutting finds the first place of the marker. -/
theorem cut_of_firstAt (h : FirstAt marker (before ++ marker ++ after) before.length) :
    cut marker (before ++ marker ++ after) = some (before, after) := by
  induction before with
  | nil =>
    rw [List.nil_append]
    cases ht : marker ++ after with
    | nil =>
      obtain ⟨rfl, rfl⟩ := List.append_eq_nil_iff.1 ht
      rfl
    | cons c cs =>
      have hp : marker.isPrefixOf (c :: cs) = true :=
        List.isPrefixOf_iff_prefix.2 (ht ▸ List.prefix_append marker after)
      rw [cut, if_pos hp, ← ht, List.drop_left]
  | cons c cs ih =>
    rw [List.cons_append, List.cons_append, List.length_cons, firstAt_cons_succ] at h
    have hp : marker.isPrefixOf (c :: (cs ++ marker ++ after)) ≠ true :=
      fun hp => h.1 (List.isPrefixOf_iff_prefix.1 hp)
    rw [List.cons_append, List.cons_append, cut, if_neg hp, ih h.2]
    rfl

/-- A span is cut off where its markers first stand. -/
theorem segments_append {d : Delimiter} {pre body : List Point} (post : List Point)
    (hpre : FirstAt d.opening (pre ++ d.opening) pre.length)
    (hbody : FirstAt d.closing (body ++ d.closing) body.length) :
    segments d (pre ++ d.opening ++ body ++ d.closing ++ post) =
      .plain pre :: .span body :: segments d post := by
  have ho := cut_of_firstAt (hpre.append (body ++ d.closing ++ post))
  have hc := cut_of_firstAt (hbody.append post)
  have htext : pre ++ d.opening ++ body ++ d.closing ++ post =
      pre ++ d.opening ++ (body ++ d.closing ++ post) := by simp
  rw [htext]
  exact segments_of_cut ho hc

/-- A text in which no closing marker stands behind an opening one is plain. -/
theorem segments_of_unclosed {d : Delimiter}
    (h : ∀ body, ¬ d.opening ++ body ++ d.closing <:+: text) : segments d text = [.plain text] := by
  rw [segments]
  split
  · rfl
  · next before rest ho =>
    split
    · rfl
    · next body after hc =>
      refine absurd ?_ (h body)
      rw [eq_append_of_cut ho, eq_append_of_cut hc]
      exact ⟨before, after, by simp⟩

/-! ### Texts by their spans -/

theorem infix_iff_exists_prefix_drop {part text : List Point} :
    part <:+: text ↔ ∃ i, part <+: text.drop i := by
  constructor
  · rintro ⟨s, t, rfl⟩
    exact ⟨s.length, t, by simp⟩
  · rintro ⟨i, h⟩
    exact h.isInfix.trans (List.drop_suffix i text).isInfix

/-- Nothing before the place that a cut finds is an occurrence. -/
theorem firstAt_of_cut (h : cut marker text = some (before, after)) :
    FirstAt marker (before ++ marker) before.length := by
  refine ⟨by simp, fun j hj hp => ?_⟩
  induction text generalizing before j with
  | nil =>
    cases marker with
    | nil => simp_all [cut]
    | cons m ms => simp [cut] at h
  | cons c cs ih =>
    have htext := eq_append_of_cut h
    rw [cut] at h
    split at h
    · obtain ⟨rfl, -⟩ := Prod.mk.inj (Option.some.inj h)
      simp at hj
    · next hno =>
      obtain ⟨⟨b, a⟩, hc, he⟩ := Option.map_eq_some_iff.1 h
      obtain ⟨rfl, rfl⟩ := Prod.mk.inj he
      cases j with
      | zero =>
        refine hno (List.isPrefixOf_iff_prefix.2 ?_)
        rw [htext]
        exact hp.trans (List.prefix_append _ _)
      | succ j => exact ih hc j (Nat.lt_of_succ_lt_succ hj) hp

theorem not_infix_of_cut_eq_none (h : cut marker text = none) : ¬ marker <:+: text := by
  induction text with
  | nil =>
    cases marker with
    | nil => simp [cut] at h
    | cons m ms => simp
  | cons c cs ih =>
    rw [cut] at h
    split at h
    · cases h
    · next hno =>
      rw [List.infix_cons_iff, not_or]
      exact ⟨fun hp => hno (List.isPrefixOf_iff_prefix.2 hp), ih (Option.map_eq_none_iff.1 h)⟩

/-- Behind the first opening marker there is all that a closed span needs. -/
theorem unclosed_of_cut {d : Delimiter} (ho : cut d.opening text = some (before, after))
    (hc : cut d.closing after = none) (body : List Point) :
    ¬ d.opening ++ body ++ d.closing <:+: text := by
  rw [eq_append_of_cut ho, infix_iff_exists_prefix_drop]
  rintro ⟨i, hp⟩
  have hopening : d.opening <+: (before ++ d.opening ++ after).drop i :=
    (List.prefix_append _ _).trans ((List.prefix_append _ _).trans hp)
  have hi : before.length ≤ i := Nat.le_of_not_lt fun hlt =>
    ((firstAt_of_cut ho).append after).first i hlt hopening
  obtain ⟨k, rfl⟩ := Nat.exists_eq_add_of_le hi
  rw [List.append_assoc before, List.drop_length_add_append] at hp
  -- behind its opening marker and its body, the closed span leaves the closing marker in `after`
  obtain ⟨t, ht⟩ := hp
  have hrest := congrArg (List.drop (d.opening ++ body).length) ht
  rw [List.append_assoc, List.drop_left, List.drop_drop, List.length_append, Nat.add_left_comm,
    List.drop_length_add_append] at hrest
  exact not_infix_of_cut_eq_none hc (infix_iff_exists_prefix_drop.2 ⟨_, t, hrest⟩)

/-- Induction along the closed spans of a text. -/
@[elab_as_elim]
theorem spanInduction (d : Delimiter) {motive : List Point → Prop}
    (unclosed : ∀ text, (∀ body, ¬ d.opening ++ body ++ d.closing <:+: text) → motive text)
    (span : ∀ pre body post, FirstAt d.opening (pre ++ d.opening) pre.length →
      FirstAt d.closing (body ++ d.closing) body.length → motive post →
      motive (pre ++ d.opening ++ body ++ d.closing ++ post)) (text : List Point) :
    motive text := by
  fun_induction segments d text with
  | case1 text ho =>
    refine unclosed text fun body h => not_infix_of_cut_eq_none ho ?_
    exact ((List.prefix_append _ _).trans (List.prefix_append _ _)).isInfix.trans h
  | case2 text before rest ho hc => exact unclosed text (unclosed_of_cut ho hc)
  | case3 text before rest ho body after hc ih =>
    rw [eq_append_of_cut ho, eq_append_of_cut hc, ← List.append_assoc, ← List.append_assoc]
    exact span before body after (firstAt_of_cut ho) (firstAt_of_cut hc) ih

end Verdict
