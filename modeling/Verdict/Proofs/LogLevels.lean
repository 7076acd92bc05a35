import Verdict.Log.Setup

/-! Levels of logging. Each call sets the root logger to the level that its word names in capitals,
or to `INFO`, whatever the calls before it have left there. Two words name something else: they are
refused, and the logger stays as it was. -/

namespace Verdict.Log

variable {s : Settings} {root : Root} {text name : Text} {word : Option Text} {n : Nat}
  {fault : Fault}

/-! ### Words -/

/-- The text that a call is about: its own word, or that of the settings if it has none. -/
def asked (s : Settings) (word : Option Text) : Text :=
  (word.filter (· ≠ ("" : Text))).getD s.logLevel

def capitals (text : Text) : Text := .ofList (Text.toUpper text.toList)

/-- A text is refused if it names something that is no level. -/
def Refuses (text : Text) (fault : Fault) : Prop := (capitals text, fault) ∈ reservedWords

/-- The level of a text: the one that it names, or else that of `INFO`. -/
inductive Means (text : Text) (n : Nat) : Prop
  | named (h : (capitals text, n) ∈ levels)
  | unnamed (hlevel : ∀ m, (capitals text, m) ∉ levels) (hfree : ∀ fault, ¬ Refuses text fault)
      (h : (("INFO" : Text), n) ∈ levels)

theorem lookup_levels_eq_some_iff : levels.lookup name = some n ↔ (name, n) ∈ levels :=
  Registry.lookup_eq_some_iff_mem (by decide)

theorem lookup_reservedWords_eq_some_iff :
    reservedWords.lookup name = some fault ↔ (name, fault) ∈ reservedWords :=
  Registry.lookup_eq_some_iff_mem (by decide)

theorem not_refuses_of_mem (h : (capitals text, n) ∈ levels) (fault : Fault) :
    ¬ Refuses text fault := by
  have hall : ∀ p ∈ levels, reservedWords.lookup p.1 = none := by decide
  rw [Refuses, ← lookup_reservedWords_eq_some_iff, hall _ h]
  exact Option.some_ne_none fault ∘ Eq.symm

theorem levelOf_eq (text : Text) : levelOf text =
    (reservedWords.lookup (capitals text)).elim (.ok ((levels.lookup (capitals text)).getD 20))
      .error := by
  rw [levelOf, capitals]
  cases reservedWords.lookup _ <;> rfl

theorem levelOf_of_refuses (h : Refuses text fault) : levelOf text = .error fault := by
  rw [levelOf_eq, lookup_reservedWords_eq_some_iff.2 h]
  rfl

theorem levelOf_of_means (h : Means text n) : levelOf text = .ok n := by
  have hnone (hfree : ∀ fault, ¬ Refuses text fault) :
      reservedWords.lookup (capitals text) = none := by
    rw [Option.eq_none_iff_forall_ne_some]
    exact fun fault hfault => hfree fault (lookup_reservedWords_eq_some_iff.1 hfault)
  cases h with
  | named h =>
    rw [levelOf_eq, hnone (not_refuses_of_mem h), lookup_levels_eq_some_iff.2 h]
    rfl
  | unnamed hlevel hfree h =>
    have hinfo : levels.lookup ("INFO" : Text) = some 20 := by decide
    obtain rfl : n = 20 := Option.some.inj ((lookup_levels_eq_some_iff.2 h).symm.trans hinfo)
    have hunnamed : levels.lookup (capitals text) = none := by
      rw [Option.eq_none_iff_forall_ne_some]
      exact fun m hm => hlevel m (lookup_levels_eq_some_iff.1 hm)
    rw [levelOf_eq, hnone hfree, hunnamed]
    rfl

/-- Every text is refused or means a level. -/
theorem refuses_or_means (text : Text) : (∃ fault, Refuses text fault) ∨ ∃ n, Means text n := by
  by_cases hrefused : ∃ fault, Refuses text fault
  · exact .inl hrefused
  · rw [not_exists] at hrefused
    by_cases hlevel : ∃ n, (capitals text, n) ∈ levels
    · obtain ⟨n, hn⟩ := hlevel
      exact .inr ⟨n, .named hn⟩
    · exact .inr ⟨20, .unnamed (not_exists.1 hlevel) hrefused (by decide)⟩

/-- The words that name something else than a level. -/
theorem exists_refuses_iff (text : Text) : (∃ fault, Refuses text fault) ↔
    capitals text = "BASIC_FORMAT" ∨ capitals text = "_STYLES" := by
  have hkeys : reservedWords.map Prod.fst = (["BASIC_FORMAT", "_STYLES"] : List Text) := rfl
  have hmem : (∃ fault, Refuses text fault) ↔ capitals text ∈ reservedWords.map Prod.fst := by
    simp only [Refuses, List.mem_map, Prod.exists, exists_and_right, exists_eq_right]
  rw [hmem, hkeys]
  simp

/-! ### Calls in turn -/

/-- A call: what it makes of the root logger, and its answer. One that is refused leaves the
logger as it is. -/
def Root.step (s : Settings) (root : Root) (word : Option Text) : Root × Except Fault Unit :=
  match setUp s word root with
  | .ok next => (next, .ok ())
  | .error fault => (root, .error fault)

/-- Calls in order, with their answers. -/
def Root.run (s : Settings) (root : Root) : List (Option Text) → Root × List (Except Fault Unit)
  | [] => (root, [])
  | word :: words =>
    let (next, answer) := root.step s word
    let (last, answers) := next.run s words
    (last, answer :: answers)

/-- The logger with one handler, at its own level. -/
def Root.single (s : Settings) (n : Nat) : Root :=
  ⟨n, [⟨n, if s.isDev then .plain else .structured⟩]⟩

theorem setUp_eq (s : Settings) (word : Option Text) (root : Root) :
    setUp s word root = (levelOf (asked s word)).map (Root.single s) := by
  have hcall (text : Text) : (do
      let level ← levelOf text
      return ⟨level, [⟨level, if s.isDev then .plain else .structured⟩]⟩ : Except Fault Root) =
      (levelOf text).map (Root.single s) := by
    cases levelOf text <;> rfl
  cases word with
  | none => exact hcall s.logLevel
  | some w =>
    by_cases hw : w = ""
    · subst hw
      exact hcall s.logLevel
    · have hasked : asked s (some w) = w := by simp [asked, Option.filter, hw]
      simp only [setUp, hw, if_false, hasked]
      exact hcall w

namespace Root

theorem step_of_refuses (h : Refuses (asked s word) fault) (root : Root) :
    root.step s word = (root, .error fault) := by
  rw [step, setUp_eq, levelOf_of_refuses h]
  rfl

theorem step_of_means (h : Means (asked s word) n) (root : Root) :
    root.step s word = (single s n, .ok ()) := by
  rw [step, setUp_eq, levelOf_of_means h]
  rfl

theorem run_cons (s : Settings) (root : Root) (word : Option Text)
    (words : List (Option Text)) : root.run s (word :: words) =
      (((root.step s word).1.run s words).1,
        (root.step s word).2 :: ((root.step s word).1.run s words).2) := rfl

theorem run_concat (s : Settings) (root : Root) (words : List (Option Text))
    (word : Option Text) : root.run s (words ++ [word]) =
      (((root.run s words).1.step s word).1,
        (root.run s words).2 ++ [((root.run s words).1.step s word).2]) := by
  induction words generalizing root with
  | nil => rfl
  | cons first rest ih =>
    rw [List.cons_append, run_cons, ih, run_cons]
    rfl

/-- One handler, at the level of the logger. -/
def IsSingle (root : Root) : Prop := ∃ format, root.handlers = [⟨root.level, format⟩]

/-- A call that is accepted leaves one handler, and a refused one does not add to it. -/
theorem isSingle_step (h : root.IsSingle ∨ (root.step s word).2 = .ok ()) :
    (root.step s word).1.IsSingle := by
  rcases refuses_or_means (asked s word) with ⟨fault, hrefused⟩ | ⟨n, hn⟩
  · rw [step_of_refuses hrefused] at h ⊢
    exact h.resolve_right (by simp)
  · rw [step_of_means hn]
    exact ⟨_, rfl⟩

/-- Once a call has been accepted there is one handler, whatever is asked later. -/
theorem isSingle_run {words : List (Option Text)}
    (h : root.IsSingle ∨ .ok () ∈ (root.run s words).2) : (root.run s words).1.IsSingle := by
  induction words generalizing root with
  | nil => exact h.resolve_right (by simp [run])
  | cons word words ih =>
    rw [run_cons] at h ⊢
    refine ih ?_
    rcases h with hroot | haccepted
    · exact .inl (isSingle_step (.inl hroot))
    · rcases List.mem_cons.1 haccepted with hfirst | hrest
      · exact .inl (isSingle_step (.inr hfirst.symm))
      · exact .inr hrest

/-- After any calls, a further one sets the logger to the level of its text and leaves it with one
handler, at that level, unless the text is refused: then the logger stays as the earlier calls left
it. Just two texts are refused, in whatever case; and once a call has been accepted there is always
one handler, at the level of the logger. -/
theorem run_concat_classified (s : Settings) (root : Root) (words : List (Option Text))
    (word : Option Text) :
    (∀ n, Means (asked s word) n → root.run s (words ++ [word]) =
      (⟨n, [⟨n, if s.isDev then .plain else .structured⟩]⟩, (root.run s words).2 ++ [.ok ()])) ∧
    (∀ fault, Refuses (asked s word) fault → root.run s (words ++ [word]) =
      ((root.run s words).1, (root.run s words).2 ++ [.error fault])) ∧
    ((∃ n, Means (asked s word) n) ∨ ∃ fault, Refuses (asked s word) fault) ∧
    ((∃ fault, Refuses (asked s word) fault) ↔
      capitals (asked s word) = "BASIC_FORMAT" ∨ capitals (asked s word) = "_STYLES") ∧
    (.ok () ∈ (root.run s words).2 → (root.run s (words ++ [word])).1.IsSingle) := by
  refine ⟨fun n hn => ?_, fun fault hrefused => ?_, (refuses_or_means _).symm,
    exists_refuses_iff _, fun haccepted => ?_⟩
  · rw [run_concat, step_of_means hn]
    rfl
  · rw [run_concat, step_of_refuses hrefused]
  · rw [run_concat]
    exact isSingle_step (.inl (isSingle_run (.inr haccepted)))

/-- A word in mixed case after one that is refused. -/
theorem run_concat_classified_warn :
    Root.initial.run {} [some "basic_format", some "Warn"] = (⟨30, [⟨30, .plain⟩]⟩,
      (Root.initial.run {} [some "basic_format"]).2 ++ [.ok ()]) := by
  have hcapitals : capitals (asked {} (some "Warn")) = "WARN" := by decide +kernel
  have hmeans : Means (asked {} (some "Warn")) 30 := by
    refine .named ?_
    rw [hcapitals]
    simp [levels]
  have hlast := run_concat_classified {} Root.initial [some "basic_format"] (some "Warn")
  exact hlast.1 30 hmeans

/-- The name of a format is no level, and asking for it sets nothing up. -/
theorem run_basic_format :
    Root.initial.run {} [some "basic_format"] =
        (Root.initial, [.error (.unknownLevel "'%(levelname)s:%(name)s:%(message)s'")]) ∧
      ¬ Root.initial.IsSingle := by
  have hrefused : Refuses (asked {} (some "basic_format"))
      (.unknownLevel "'%(levelname)s:%(name)s:%(message)s'") := by
    have hcapitals : capitals (asked {} (some "basic_format")) = "BASIC_FORMAT" := by
      decide +kernel
    rw [Refuses, hcapitals]
    simp [reservedWords]
  refine ⟨?_, ?_⟩
  · rw [run_cons, step_of_refuses hrefused]
    rfl
  · rintro ⟨format, h⟩
    cases h

end Root

end Verdict.Log
