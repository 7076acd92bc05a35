import Verdict.Proofs.Json.Grammar

/-! How deep decoding goes into a JSON text. Each lexeme leads to a place one level further in, one
further out or as deep as before, so a short text does not go deep; a text of a scalar goes
nowhere. -/

namespace Verdict.Json

/-- So many levels are too few for the text: some lexemes lead to a place where they do not suffice
for the lexeme that follows. -/
def Exceeds (levels : Nat) (text : List Point) : Prop :=
  ∃ before l p, before ++ [l] <+: lexemes text ∧ before.foldlM Place.step .start = some p ∧
    p.overflows levels l = true

variable {levels : Nat} {v : Value} {text cs rest : List Point}
variable {p q : Place} {l : Lexeme} {ls : List Lexeme}

/-! ### Steps -/

theorem Place.close_eq_some {b : Bracket} (h : p.close b = some q) :
    q = ⟨p.opened.tail, .next⟩ := by
  rw [close] at h
  split at h
  · exact (Option.some.inj h).symm
  · cases h

/-- A lexeme opens a container inside the others, or closes the innermost one, or leaves them all
as they are. -/
theorem Place.step_cases (h : p.step l = some q) :
    (∃ b, l = .opening b ∧ q.opened = b :: p.opened) ∨ q.opened = p.opened.tail ∨
      q.opened = p.opened := by
  obtain ⟨opened, awaits⟩ := p
  cases l with
  | opening b =>
    refine .inl ⟨b, rfl, ?_⟩
    cases awaits <;> cases h <;> rfl
  | closing b =>
    refine .inr (.inl ?_)
    cases awaits with
    | item | member | next => exact close_eq_some h ▸ rfl
    | value | name | colon => cases h
  | comma =>
    refine .inr (.inr ?_)
    cases awaits with
    | next =>
      obtain ⟨b, -, rfl⟩ := Option.map_eq_some_iff.1 h
      rfl
    | value | item | name | member | colon => cases h
  | colon | string | plain | named | broken | other =>
    refine .inr (.inr ?_)
    cases awaits <;> cases h <;> rfl

theorem Place.length_opened_step (h : p.step l = some q) :
    q.opened.length ≤ p.opened.length + 1 := by
  rcases step_cases h with ⟨b, -, hq⟩ | hq | hq
  · rw [hq, List.length_cons]
  · rw [hq, List.length_tail]
    omega
  · rw [hq]
    exact Nat.le_succ _

/-- A place is no deeper than the lexemes before it are many. -/
theorem Place.length_opened_le (h : ls.foldlM step p = some q) :
    q.opened.length ≤ p.opened.length + ls.length := by
  induction ls generalizing p with
  | nil =>
    cases h
    exact Nat.le_refl _
  | cons l ls ih =>
    obtain ⟨r, hr, hq⟩ := Option.bind_eq_some_iff.1 h
    have := length_opened_step hr
    have := ih hq
    rw [List.length_cons]
    omega

/-- A lexeme takes three levels more than there are containers around it, at most. -/
theorem Place.lt_of_overflows (h : p.overflows levels l = true) :
    levels < p.opened.length + 3 := by
  rw [overflows] at h
  split at h
  · next q hq =>
    have := length_opened_step hq
    simp only [Bool.and_eq_true, decide_eq_true_eq] at h
    split at h <;> omega
  · simp only [Bool.and_eq_true, decide_eq_true_eq] at h
    exact h.2

/-! ### Overflow -/

/-- Decoding stops at the first overflow. -/
theorem isSome_overflow?_iff : (overflow? levels p ls).isSome = true ↔
    ∃ before l q, before ++ [l] <+: ls ∧ before.foldlM Place.step p = some q ∧
      q.overflows levels l = true := by
  induction ls generalizing p with
  | nil =>
    refine iff_of_false Bool.false_ne_true ?_
    rintro ⟨before, l, q, hbefore, -⟩
    cases before <;> cases List.prefix_nil.1 hbefore
  | cons l ls ih =>
    rw [overflow?]
    split
    · next hover => exact iff_of_true rfl ⟨[], l, p, List.prefix_append [l] ls, rfl, hover⟩
    · next hroom =>
      constructor
      · intro h
        obtain ⟨o, ho⟩ := Option.isSome_iff_exists.1 h
        obtain ⟨r, hr, ho⟩ := Option.bind_eq_some_iff.1 ho
        obtain ⟨before, l', q, hbefore, hq, hover⟩ := ih.1 (Option.isSome_iff_exists.2 ⟨o, ho⟩)
        refine ⟨l :: before, l', q, List.cons_prefix_cons.2 ⟨rfl, hbefore⟩, ?_, hover⟩
        rw [List.foldlM_cons, hr]
        exact hq
      · rintro ⟨before, l', q, hbefore, hq, hover⟩
        cases before with
        | nil =>
          cases hq
          obtain ⟨rfl, -⟩ := List.cons_prefix_cons.1 hbefore
          exact absurd hover hroom
        | cons l'' before =>
          obtain ⟨rfl, hrest⟩ := List.cons_prefix_cons.1 hbefore
          obtain ⟨r, hr, hq⟩ := Option.bind_eq_some_iff.1 hq
          rw [hr]
          exact ih.2 ⟨before, l', q, hrest, hq, hover⟩

theorem isSome_overflow?_start : (overflow? levels .start (lexemes text)).isSome = true ↔
    Exceeds levels text :=
  isSome_overflow?_iff

/-! ### Bounds -/

theorem length_lexemes_le (text : List Point) : (lexemes text).length ≤ text.length + 1 := by
  fun_induction lexemes text with
  | case1 cs l rest h ih =>
    have := length_lt_of_lexeme? h
    have := (List.dropWhile_suffix (l := cs) isBlank).length_le
    rw [List.length_cons]
    omega
  | case2 => exact Nat.le_add_left 1 _

/-- Going deep takes a long text. -/
theorem Exceeds.lt_length (h : Exceeds levels text) : levels < text.length + 3 := by
  obtain ⟨before, l, p, hbefore, hp, hover⟩ := h
  have := Place.lt_of_overflows hover
  have hle : p.opened.length ≤ 0 + before.length := Place.length_opened_le hp
  have hlength := hbefore.length_le
  rw [List.length_append, List.length_singleton] at hlength
  have := length_lexemes_le text
  omega

theorem lexemes_of_lexeme? (h : lexeme? (cs.dropWhile isBlank) = some (l, rest)) :
    lexemes cs = l :: lexemes rest := by
  rw [lexemes]
  split
  · next heq =>
    rw [h] at heq
    cases heq
    rfl
  · next heq =>
    rw [h] at heq
    cases heq

/-- Opening brackets alone are lexemes alone. -/
theorem lexemes_openings (n : Nat) : lexemes (List.replicate n (.char '[')) =
    List.replicate n (.opening .array) ++ [.other] := by
  induction n with
  | zero =>
    rw [List.replicate_zero, lexemes]
    rfl
  | succ n ih =>
    have hfirst : lexeme? ((Point.char '[' :: List.replicate n (.char '[')).dropWhile isBlank) =
        some (.opening .array, List.replicate n (.char '[')) := rfl
    rw [List.replicate_succ, lexemes_of_lexeme? hfirst, ih]
    rfl

theorem foldlM_step_openings (n : Nat) (outer : List Bracket) :
    (List.replicate n (.opening .array)).foldlM Place.step ⟨outer, .item⟩ =
      some ⟨List.replicate n .array ++ outer, .item⟩ := by
  induction n generalizing outer with
  | zero => rfl
  | succ n ih =>
    have hstep : Place.step ⟨outer, .item⟩ (.opening .array) = some ⟨.array :: outer, .item⟩ := rfl
    rw [List.replicate_succ, List.foldlM_cons, hstep, Option.bind_eq_bind, Option.bind_some, ih,
      List.replicate_succ', List.append_assoc, List.singleton_append]

/-- So many opening brackets and one more exceed any number of levels. -/
theorem exceeds_openings (levels : Nat) :
    Exceeds levels (List.replicate (levels + 1) (.char '[')) := by
  have hprefix : List.replicate levels (.opening .array) ++ [.opening .array] <+:
      lexemes (List.replicate (levels + 1) (.char '[')) := by
    rw [lexemes_openings, ← List.replicate_succ']
    exact List.prefix_append _ _
  cases levels with
  | zero => exact ⟨[], _, .start, hprefix, rfl, rfl⟩
  | succ n =>
    refine ⟨_, _, _, hprefix, foldlM_step_openings n [.array], ?_⟩
    simp [Place.overflows, Place.step]

/-! ### Scalars -/

/-- Only a bracket opens a container. -/
theorem head?_of_lexeme?_opening {b : Bracket} (h : lexeme? cs = some (.opening b, rest)) :
    cs.head? = some (.char '[') ∨ cs.head? = some (.char '\x7b') := by
  unfold lexeme? at h
  split at h
  case h_1 => exact .inl rfl
  case h_2 => exact .inr rfl
  case h_7 =>
    obtain ⟨⟨s, after⟩, -, hmap⟩ := Option.map_eq_some_iff.1 h
    cases hmap
  case h_8 =>
    split at h
    · next hword =>
      cases h
      obtain ⟨⟨word, l⟩, hfind, hmap⟩ := Option.map_eq_some_iff.1 hword
      cases hmap
      have hwords : ∀ p ∈ lexemeWords, p.2 = .plain ∨ p.2 = .named := by decide
      rcases hwords _ (List.mem_of_find?_eq_some hfind) with hl | hl <;> cases hl
    · obtain ⟨⟨n, after⟩, -, hmap⟩ := Option.map_eq_some_iff.1 h
      cases hmap
  all_goals cases h

theorem ne_opening_of_head (h : ∀ c ∈ (text.dropWhile isBlank).head?, c ≠ '[' ∧ c ≠ '\x7b')
    (hl : l ∈ (lexemes text).head?) (b : Bracket) : l ≠ .opening b := by
  rintro rfl
  rw [lexemes] at hl
  split at hl
  · next heq =>
    cases hl
    rcases head?_of_lexeme?_opening heq with hhead | hhead
    · exact (h _ hhead).1 rfl
    · exact (h _ hhead).2 rfl
  · rw [List.head?_cons, Option.mem_def, Option.some.injEq] at hl
    split at hl <;> cases hl

namespace Place

/-- The end of a text, where nothing may follow. -/
def finish : Place := ⟨[], .next⟩

theorem step_finish : finish.step l = none := by
  cases l <;> rfl

theorem overflows_finish : finish.overflows levels l = false := by
  rw [overflows, step_finish]
  rfl

theorem step_start (h : ∀ b, l ≠ .opening b) :
    start.step l = none ∨ start.step l = some finish := by
  cases l with
  | opening b => exact absurd rfl (h b)
  | string | plain | named => exact .inr rfl
  | closing | comma | colon | broken | other => exact .inl rfl

theorem overflows_start (h : ∀ b, l ≠ .opening b) : start.overflows levels l = false := by
  rw [overflows]
  rcases step_start h with hnone | hfinish
  · rw [hnone]
    rfl
  · rw [hfinish]
    rfl

end Place

/-- A text that does not begin with a bracket opens nothing later on. -/
theorem not_exceeds_of_head
    (h : ∀ c ∈ (text.dropWhile isBlank).head?, c ≠ '[' ∧ c ≠ '\x7b') : ¬ Exceeds levels text := by
  rintro ⟨before, l, p, ⟨after, hafter⟩, hp, hover⟩
  cases before with
  | nil =>
    cases hp
    have hopening := ne_opening_of_head h (l := l) (by rw [← hafter]; rfl)
    rw [Place.overflows_start hopening] at hover
    cases hover
  | cons l' before =>
    have hopening := ne_opening_of_head h (l := l') (by rw [← hafter]; rfl)
    obtain ⟨q, hq, hp⟩ := Option.bind_eq_some_iff.1 hp
    rcases Place.step_start hopening with hnone | hfinish
    · cases hnone.symm.trans hq
    · cases hfinish.symm.trans hq
      cases before with
      | nil =>
        cases hp
        rw [Place.overflows_finish] at hover
        cases hover
      | cons l'' before =>
        obtain ⟨r, hr, -⟩ := Option.bind_eq_some_iff.1 hp
        cases Place.step_finish.symm.trans hr

/-- The text of a scalar opens with a quote, with a figure, or with the letter of a word. -/
theorem WritesScalar.head (h : WritesScalar text v) :
    ∀ c ∈ text.head?, c ≠ '[' ∧ c ≠ '\x7b' := by
  intro c hc
  cases h with
  | word h =>
    have hwords : ∀ p ∈ words, ∀ c ∈ p.1.toList.head?, c ≠ '[' ∧ c ≠ '\x7b' := by decide
    exact hwords _ h c hc
  | number h =>
    rcases h.isPlainFigure c (List.mem_of_mem_head? hc) with hdigit | hmark
    · constructor <;> rintro rfl <;> cases hdigit
    · constructor <;> rintro rfl <;> exact absurd hmark (by decide)
  | string h =>
    cases hc
    decide

theorem WritesScalar.ne_nil (h : WritesScalar text v) : text ≠ [] := by
  rintro rfl
  cases readCore_eq_some_iff.2 h

/-- What writes a scalar goes nowhere. -/
theorem Writes.not_exceeds (h : Writes text v) : ¬ Exceeds levels text := by
  obtain @⟨before, core, after, v, hbefore, -, hcore⟩ := h
  refine not_exceeds_of_head ?_
  obtain ⟨c, cs, rfl⟩ := List.exists_cons_of_ne_nil hcore.ne_nil
  have hc : ¬ isBlank c = true := by rw [hcore.trimmed.1 c rfl]; exact Bool.false_ne_true
  rw [List.append_assoc, List.dropWhile_append_of_pos hbefore, List.cons_append,
    List.dropWhile_cons_of_neg hc]
  exact hcore.head

end Verdict.Json
