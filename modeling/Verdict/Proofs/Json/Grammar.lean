import Verdict.Proofs.Json.Number
import Verdict.Proofs.Json.Spelling

/-! The grammar of texts of scalars, and what each text writes. A text is read as what it writes,
and one that writes nothing is not read. -/

namespace Verdict.Json

attribute [local instance] decidableForallMem

/-- A text of a scalar, without blanks around it. -/
inductive WritesScalar : List Point → Value → Prop
  | word {w : Text} {v : Value} (h : (w, v) ∈ words) : WritesScalar w.toList v
  | number {text : List Point} {n : Number} (h : WritesNumber text n) :
      WritesScalar text (.number n)
  | string {text cs : List Point} (h : Spells text cs) :
      WritesScalar ('"' :: (text ++ [.char '"'])) (.string (.ofList cs))

/-- A text of a scalar, with blanks around it or not. -/
inductive Writes : List Point → Value → Prop
  | padded {before core after : List Point} {v : Value} (hbefore : ∀ c ∈ before, isBlank c = true)
      (hafter : ∀ c ∈ after, isBlank c = true) (h : WritesScalar core v) :
      Writes (before ++ core ++ after) v

theorem isBlank_of_text_isBlank {c : Point} (h : Text.isBlank c = false) : isBlank c = false := by
  rw [isBlank, ← Bool.not_eq_true]
  simp only [Bool.or_eq_true, decide_eq_true_eq]
  rintro (((rfl | rfl) | rfl) | rfl) <;> cases h

variable {text : List Point} {v : Value}

/-- No blank stands at either end of a scalar. -/
theorem WritesScalar.trimmed (h : WritesScalar text v) :
    (∀ c ∈ text.head?, isBlank c = false) ∧ ∀ c ∈ text.getLast?, isBlank c = false := by
  cases h with
  | word h =>
    have hwords : ∀ p ∈ words, (∀ c ∈ p.1.toList, isBlank c = false) := by decide
    exact ⟨fun c hc => hwords _ h c (List.mem_of_mem_head? hc),
      fun c hc => hwords _ h c (List.mem_of_mem_getLast? hc)⟩
  | number h =>
    have hplain (c : Point) (hc : c ∈ text) : isBlank c = false :=
      isBlank_of_text_isBlank (isBlank_of_isPlainFigure (h.isPlainFigure c hc))
    exact ⟨fun c hc => hplain c (List.mem_of_mem_head? hc),
      fun c hc => hplain c (List.mem_of_mem_getLast? hc)⟩
  | string h =>
    refine ⟨?_, ?_⟩
    · rintro c ⟨⟩
      rfl
    · intro c hc
      rw [← List.cons_append, List.getLast?_concat] at hc
      cases hc
      rfl

/-- What a text without blanks around it is read as. -/
def readCore (cs : List Point) : Option Value :=
  match words.lookup (.ofList cs) with
  | some v => some v
  | none =>
    match cs with
    | .char '"' :: rest =>
      match readString rest with
      | some (s, []) => some (.string (.ofList s))
      | _ => none
    | _ => (readNumber cs).map .number

theorem readScalar_eq (text : List Point) :
    readScalar text = readCore (Text.strip isBlank text) := rfl

/-- A text that is no word is not looked up as one. -/
theorem lookup_words_eq_none (h : ∀ p ∈ words, p.1.toList ≠ text) :
    words.lookup (.ofList text) = none := by
  rw [List.lookup_eq_none_iff]
  intro p hp
  rw [bne_iff_ne, ne_eq]
  rintro heq
  exact h p hp (by rw [← heq, Text.toList_ofList])

theorem readCore_eq_some_iff : readCore text = some v ↔ WritesScalar text v := by
  constructor
  · intro h
    unfold readCore at h
    split at h
    · next w hlookup =>
      cases h
      obtain ⟨before, after, hwords, -⟩ := List.lookup_eq_some_iff.1 hlookup
      have hword : WritesScalar (Text.ofList text).toList v := .word (by rw [hwords]; simp)
      rwa [Text.toList_ofList] at hword
    · split at h
      · next rest =>
        split at h
        · next s hread =>
          cases h
          obtain ⟨inner, rfl, hspells⟩ := readString_eq_some_iff.1 hread
          exact .string hspells
        · cases h
      · obtain ⟨n, hn, rfl⟩ := Option.map_eq_some_iff.1 h
        exact .number (readNumber_eq_some_iff.1 hn)
  · intro h
    cases h with
    | @word w v h =>
      have hlookup : ∀ p ∈ words, words.lookup p.1 = some p.2 := by decide +kernel
      have hw : words.lookup w = some v := hlookup _ h
      unfold readCore
      rw [Text.ofList_toList, hw]
    | @number text n h =>
      have hread := readNumber_eq_some_iff.2 h
      have hwords : ∀ p ∈ words, readNumber p.1.toList = none := by decide +kernel
      have hnone : words.lookup (.ofList text) = none := by
        refine lookup_words_eq_none fun p hp heq => ?_
        rw [← heq, hwords p hp] at hread
        cases hread
      unfold readCore
      rw [hnone]
      dsimp only
      split
      · cases hread
      · rw [hread]
        rfl
    | @string text cs h =>
      have hquote : ∀ p ∈ words, p.1.toList.head? ≠ some (.char '"') := by decide
      have hnone : words.lookup (.ofList ('"' :: (text ++ [.char '"']))) = none :=
        lookup_words_eq_none fun p hp heq => hquote p hp (by rw [heq]; rfl)
      rw [readCore, hnone]
      dsimp only
      rw [readString_eq_some_iff.2 ⟨text, rfl, h⟩]

/-- A text reads as a scalar if it writes that scalar. -/
theorem readScalar_eq_some_iff : readScalar text = some v ↔ Writes text v := by
  rw [readScalar_eq, readCore_eq_some_iff]
  constructor
  · intro h
    obtain ⟨before, after, hbefore, hafter, htext⟩ := Text.exists_eq_strip isBlank text
    rw [htext]
    exact .padded hbefore hafter h
  · rintro ⟨hbefore, hafter, h⟩
    rwa [Text.strip_append hbefore h.trimmed.1 h.trimmed.2 hafter]

end Verdict.Json
