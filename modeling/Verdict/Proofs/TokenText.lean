import Mathlib.Logic.ExistsUnique
import Verdict.Proofs.Text.Trim
import Verdict.Token

/-! The grammar of token text. A text is token text when it is spelled by spans one after
the other; `parse?` accepts exactly these texts, and no text is spelled in two ways. -/

namespace Verdict.Token

open Text

/-! ### Characters -/

theorem isBlank_of_isBracket {c : Point} (h : isBracket c = true) : isBlank c = false := by
  simp only [isBracket, Bool.or_eq_true, decide_eq_true_eq] at h
  rcases h with ((rfl | rfl) | rfl) | rfl <;> decide

theorem isNamePart_of_isBracket {c : Point} (h : isBracket c = true) : isNamePart c = false := by
  simp only [isBracket, Bool.or_eq_true, decide_eq_true_eq] at h
  rcases h with ((rfl | rfl) | rfl) | rfl <;> decide +kernel

theorem isNameStart_of_isBracket {c : Point} (h : isBracket c = true) : isNameStart c = false := by
  simp only [isBracket, Bool.or_eq_true, decide_eq_true_eq] at h
  rcases h with ((rfl | rfl) | rfl) | rfl <;> decide

theorem isBlank_of_isNameStart {c : Point} (h : isNameStart c = true) : isBlank c = false := by
  have hall : ∀ k ∈ blanks, isNameStart (.ofNat k) = false := by decide
  rw [isBlank, List.contains_eq_mem, decide_eq_false_iff_not]
  intro hmem
  have hno := hall c.toNat hmem
  rw [Point.ofNat_toNat, h] at hno
  cases hno

/-! ### Spelling -/

/-- The name of a value: no bracket in it and no blank at its ends. -/
structure IsName (n : List Point) : Prop where
  ne_nil : n ≠ []
  trimmed : Trimmed n
  plain : ∀ c ∈ n, isBracket c = false

/-- The name of a transform as token text writes it. -/
def IsFunctionName (f : List Point) : Prop :=
  ∃ c cs, f = c :: cs ∧ isNameStart c = true ∧ ∀ d ∈ cs, isNamePart d = true

/-- What stands between the outer blanks of a span: a name, alone or in the parentheses of a
transform and then with blanks of its own. -/
inductive Core where
  | name (name : {n // IsName n})
  | call (function : {f // IsFunctionName f}) (before : {w // Blank w}) (name : {n // IsName n})
      (after : {w // Blank w})

namespace Core

def text : Core → List Point
  | .name n => n
  | .call f w n v => f.val ++ .char '(' :: (w.val ++ n.val ++ v.val ++ [.char ')'])

/-- The token that is spelled. -/
def token : Core → Token
  | .name n => ⟨.ofList n, none⟩
  | .call f _ n _ => ⟨.ofList n, some (.ofList f)⟩

end Core

/-- The text between the markers of a span, part by part. -/
structure Body where
  before : {w // Blank w}
  core : Core
  after : {w // Blank w}

namespace Body

def text (b : Body) : List Point := b.before ++ b.core.text ++ b.after

def token (b : Body) : Token := b.core.token

/-- A body between its markers. -/
def span (b : Body) : List Point := [.char '{', .char '{'] ++ b.text ++ [.char '}', .char '}']

end Body

/-- The text that spans spell one after the other. -/
def spell (bs : List Body) : List Point := bs.flatMap Body.span

/-! ### Calls -/

theorem IsFunctionName.isBracket_eq_false {f : List Point} (h : IsFunctionName f) :
    ∀ c ∈ f, isBracket c = false := by
  obtain ⟨d, ds, rfl, hd, hds⟩ := h
  intro c hc
  by_contra hb
  rw [Bool.not_eq_false] at hb
  rcases List.mem_cons.1 hc with rfl | hc
  · rw [isNameStart_of_isBracket hb] at hd
    cases hd
  · have hpart := hds c hc
    rw [isNamePart_of_isBracket hb] at hpart
    cases hpart

/-- A call takes the longest name before a parenthesis that the last character closes. -/
theorem splitCall_eq_some_iff (cs f a : List Point) :
    splitCall cs = some (f, a) ↔ IsFunctionName f ∧ cs = f ++ .char '(' :: (a ++ [.char ')']) := by
  constructor
  · intro h
    unfold splitCall at h
    split at h
    · cases h
    · next c cs =>
      split at h
      · next inner hinner =>
        split at h
        · next hc =>
          simp only [Bool.and_eq_true, beq_iff_eq] at hc
          obtain ⟨rfl, rfl⟩ := Prod.mk.inj (Option.some.inj h)
          refine ⟨⟨c, _, rfl, hc.1, fun d hd => List.mem_takeWhile_imp hd⟩, ?_⟩
          obtain ⟨argument, rfl⟩ := List.getLast?_eq_some_iff.1 hc.2
          rw [List.dropLast_concat, List.cons_append, ← hinner, List.takeWhile_append_dropWhile]
        · cases h
      · cases h
  · rintro ⟨⟨c, ds, rfl, hc, hds⟩, rfl⟩
    -- no parenthesis is part of a name, so the longest name ends at the first one
    have hstop : ∀ d ∈ (.char '(' :: (a ++ [.char ')'])).head?, isNamePart d = false := by
      rintro d ⟨⟩
      exact isNamePart_of_isBracket rfl
    rw [List.cons_append, splitCall, dropWhile_append_of_head hds hstop,
      takeWhile_append_of_head hds hstop]
    simp [hc]

theorem splitCall_of_isName {n : List Point} (h : IsName n) : splitCall n = none := by
  by_contra hne
  obtain ⟨⟨f, a⟩, hs⟩ := Option.ne_none_iff_exists'.1 hne
  have hmem : .char '(' ∈ n := by
    rw [((splitCall_eq_some_iff n f a).1 hs).2]
    simp
  exact absurd (h.plain _ hmem) (by decide)

/-- A name with blanks around it reads as the name. -/
theorem nameOf?_eq_some_iff (cs : List Point) (s : Text) :
    nameOf? cs = some s ↔
      ∃ w n v, Blank w ∧ IsName n ∧ Blank v ∧ cs = w ++ n ++ v ∧ s = .ofList n := by
  constructor
  · intro h
    rw [nameOf?] at h
    split at h
    · cases h
    · next hn =>
      obtain ⟨w, v, hw, hv, he⟩ := exists_eq_trim cs
      rw [not_or, Bool.not_eq_true, List.any_eq_false] at hn
      refine ⟨w, trim cs, v, hw, ⟨hn.1, trimmed_trim cs, ?_⟩, hv, he, (Option.some.inj h).symm⟩
      exact fun c hc => Bool.not_eq_true _ ▸ hn.2 c hc
  · rintro ⟨w, n, v, hw, hn, hv, rfl, rfl⟩
    have hany : n.any isBracket = false :=
      List.any_eq_false.2 fun c hc => by rw [hn.plain c hc]; decide
    rw [nameOf?, trim_append hw hn.trimmed hv, if_neg (by simp [hn.ne_nil, hany])]

/-! ### Bodies -/

namespace Core

theorem text_ne_nil (core : Core) : core.text ≠ [] := by
  cases core with
  | name n => exact n.2.ne_nil
  | call f w n v => simp [text]

theorem trimmed_text (core : Core) : Trimmed core.text := by
  cases core with
  | name n => exact n.2.trimmed
  | call f w n v =>
    obtain ⟨f, c, cs, rfl, hc, -⟩ := f
    constructor
    · rintro d ⟨⟩
      exact isBlank_of_isNameStart hc
    · intro d hd
      rw [text, List.getLast?_append, ← List.cons_append, List.getLast?_concat] at hd
      obtain rfl := Option.some.inj hd
      decide

/-- The function and the argument that the text of a core splits into. -/
def parts : Core → Option (List Point × List Point)
  | .name _ => none
  | .call f w n v => some (f, w ++ n ++ v)

theorem splitCall_text (core : Core) : splitCall core.text = core.parts := by
  cases core with
  | name n => exact splitCall_of_isName n.2
  | call f w n v => exact (splitCall_eq_some_iff _ _ _).2 ⟨f.2, rfl⟩

theorem text_injective : Function.Injective text := by
  intro core core' h
  have hparts : core.parts = core'.parts := by
    rw [← splitCall_text, h, splitCall_text]
  cases core with
  | name n =>
    cases core' with
    | name n' => rw [Subtype.ext h]
    | call f' w' n' v' => cases hparts
  | call f w n v =>
    cases core' with
    | name n' => cases hparts
    | call f' w' n' v' =>
      obtain ⟨hf, ha⟩ := Prod.mk.inj (Option.some.inj hparts)
      obtain ⟨hw, hn, hv⟩ := padded_inj w.2 w'.2 v.2 v'.2 n.2.trimmed n'.2.trimmed n.2.ne_nil ha
      rw [Subtype.ext hf, Subtype.ext hw, Subtype.ext hn, Subtype.ext hv]

end Core

namespace Body

theorem trim_text (b : Body) : trim b.text = b.core.text :=
  trim_append b.before.2 b.core.trimmed_text b.after.2

theorem text_injective : Function.Injective text := by
  intro b b' h
  obtain ⟨hw, hc, hv⟩ := padded_inj b.before.2 b'.before.2 b.after.2 b'.after.2
    b.core.trimmed_text b'.core.trimmed_text b.core.text_ne_nil h
  cases b
  cases b'
  rw [Body.mk.injEq]
  exact ⟨Subtype.ext hw, Core.text_injective hc, Subtype.ext hv⟩

/-- The only brackets of a body are the parentheses of its call. -/
theorem eq_paren_of_mem_text (b : Body) {c : Point} (hc : c ∈ b.text) (hb : isBracket c = true) :
    c = '(' ∨ c = ')' := by
  have hblank : ∀ w : {w // Blank w}, c ∉ w.1 := by
    intro w hw
    have := w.2 c hw
    rw [isBlank_of_isBracket hb] at this
    cases this
  have hname : ∀ n : {n // IsName n}, c ∉ n.1 := by
    intro n hn
    have := n.2.plain c hn
    rw [hb] at this
    cases this
  have hfunction : ∀ f : {f // IsFunctionName f}, c ∉ f.1 := by
    intro f hf
    have := f.2.isBracket_eq_false c hf
    rw [hb] at this
    cases this
  obtain ⟨before, core, after⟩ := b
  cases core with
  | name n => simp [text, Core.text, hblank, hname] at hc
  | call f w n v => simpa [text, Core.text, hblank, hname, hfunction] using hc

theorem closing_not_mem_text (b : Body) : .char '}' ∉ b.text := by
  intro h
  have := b.eq_paren_of_mem_text h rfl
  simp at this

end Body

/-- A body text stands for the token of its only reading. -/
theorem ofBody?_eq_some_iff (cs : List Point) (t : Token) :
    ofBody? cs = some t ↔ ∃ b : Body, b.text = cs ∧ b.token = t := by
  constructor
  · intro h
    obtain ⟨w, v, hw, hv, he⟩ := exists_eq_trim cs
    rw [ofBody?] at h
    split at h
    · next f a hcall =>
      obtain ⟨hf, hcs⟩ := (splitCall_eq_some_iff _ _ _).1 hcall
      obtain ⟨s, hs, rfl⟩ := Option.map_eq_some_iff.1 h
      obtain ⟨w', n, v', hw', hn, hv', rfl, rfl⟩ := (nameOf?_eq_some_iff _ _).1 hs
      refine ⟨⟨⟨w, hw⟩, .call ⟨f, hf⟩ ⟨w', hw'⟩ ⟨n, hn⟩ ⟨v', hv'⟩, ⟨v, hv⟩⟩, ?_, rfl⟩
      rw [he, hcs]
      rfl
    · obtain ⟨s, hs, rfl⟩ := Option.map_eq_some_iff.1 h
      obtain ⟨w', n, v', hw', hn, hv', rfl, rfl⟩ := (nameOf?_eq_some_iff _ _).1 hs
      exact ⟨⟨⟨w', hw'⟩, .name ⟨n, hn⟩, ⟨v', hv'⟩⟩, rfl, rfl⟩
  · rintro ⟨b, rfl, rfl⟩
    rw [ofBody?, b.trim_text, Core.splitCall_text]
    obtain ⟨w, core, v⟩ := b
    cases core with
    | name n =>
      have hname := (nameOf?_eq_some_iff _ _).2 ⟨w, n, v, w.2, n.2, v.2, rfl, rfl⟩
      exact Option.map_eq_some_iff.2 ⟨_, hname, rfl⟩
    | call f w' n v' =>
      have hname := (nameOf?_eq_some_iff _ _).2 ⟨w', n, v', w'.2, n.2, v'.2, rfl, rfl⟩
      exact Option.map_eq_some_iff.2 ⟨_, hname, rfl⟩

/-! ### Token texts -/

theorem spell_cons (b : Body) (bs : List Body) : spell (b :: bs) = b.span ++ spell bs :=
  List.flatMap_cons

/-- A body holds no brace, so that the first closing marker after it is its own. -/
theorem segments_span_append (b : Body) (rest : List Point) :
    segments .default (b.span ++ rest) =
      .plain [] :: .span b.text :: segments .default rest := by
  have ho : cut Delimiter.default.opening (b.span ++ rest) =
      some ([], b.text ++ ([.char '}', .char '}'] ++ rest)) := by
    rw [Body.span, List.append_assoc, List.append_assoc]
    exact cut_append_of_not_mem _ List.not_mem_nil
  exact segments_of_cut ho (cut_append_of_not_mem rest b.closing_not_mem_text)

theorem spell_injective : Function.Injective spell := by
  intro bs bs' h
  induction bs generalizing bs' with
  | nil =>
    cases bs' with
    | nil => rfl
    | cons b' bs' => simp [spell, Body.span] at h
  | cons b bs ih =>
    cases bs' with
    | nil => simp [spell, Body.span] at h
    | cons b' bs' =>
      -- both texts are cut alike, and what follows the first span joins back to the rest
      have hsegs := congrArg (segments .default) h
      rw [spell_cons, spell_cons, segments_span_append, segments_span_append] at hsegs
      injection hsegs with _ hsegs
      injection hsegs with hspan hrest
      have htail := congrArg (List.flatMap (Segment.source .default)) hrest
      rw [join_segments, join_segments] at htail
      rw [Body.text_injective (Segment.span.inj hspan), ih htail]

theorem ofSegments?_segments_spell (bs : List Body) :
    ofSegments? (segments .default (spell bs)) = some (bs.map Body.token) := by
  induction bs with
  | nil =>
    rw [segments_of_cut_eq_none rfl]
    rfl
  | cons b bs ih =>
    rw [spell_cons, segments_span_append, ofSegments?, ofSegments?, ih,
      (ofBody?_eq_some_iff _ _).2 ⟨b, rfl, rfl⟩]
    rfl

theorem exists_spell_of_ofSegments? {segs : List Segment} {ts : List Token}
    (h : ofSegments? segs = some ts) :
    ∃ bs, spell bs = segs.flatMap (Segment.source .default) ∧ bs.map Body.token = ts := by
  induction segs generalizing ts with
  | nil =>
    obtain rfl := Option.some.inj h
    exact ⟨[], rfl, rfl⟩
  | cons seg segs ih =>
    cases seg with
    | plain text =>
      cases text with
      | nil => exact ih h
      | cons c cs => cases h
    | span body =>
      obtain ⟨t, ht, h⟩ := Option.bind_eq_some_iff.1 h
      obtain ⟨ts, hts, h⟩ := Option.bind_eq_some_iff.1 h
      obtain rfl := Option.some.inj h
      obtain ⟨b, rfl, rfl⟩ := (ofBody?_eq_some_iff _ _).1 ht
      obtain ⟨bs, hbs, rfl⟩ := ih hts
      refine ⟨b :: bs, ?_, rfl⟩
      rw [spell_cons, hbs]
      rfl

theorem all?_eq_some_iff (text : List Point) (ts : List Token) :
    all? text = some ts ↔ ∃ bs, spell bs = text ∧ bs.map Body.token = ts := by
  constructor
  · intro h
    have hspell := exists_spell_of_ofSegments? h
    rwa [join_segments] at hspell
  · rintro ⟨bs, rfl, rfl⟩
    exact ofSegments?_segments_spell bs

/-- A text stands for the token of the first of the spans that spell it, and no text is spelled
in two ways. A text that is not spelled by one span or more stands for no token. -/
theorem parse?_eq_some_iff :
    Function.Injective spell ∧ ∀ text : List Point,
      (∀ t, parse? text = some t ↔ ∃ b bs, spell (b :: bs) = text ∧ b.token = t) ∧
      (parse? text = none ↔ ¬∃ b bs, spell (b :: bs) = text) := by
  have hsome : ∀ text t, parse? text = some t ↔ ∃ b bs, spell (b :: bs) = text ∧ b.token = t := by
    intro text t
    rw [parse?, Option.bind_eq_some_iff]
    constructor
    · rintro ⟨ts, hts, ht⟩
      obtain ⟨bs, rfl, rfl⟩ := (all?_eq_some_iff text ts).1 hts
      cases bs with
      | nil => cases ht
      | cons b bs => exact ⟨b, bs, rfl, Option.some.inj ht⟩
    · rintro ⟨b, bs, rfl, rfl⟩
      exact ⟨_, (all?_eq_some_iff _ _).2 ⟨b :: bs, rfl, rfl⟩, rfl⟩
  refine ⟨spell_injective, fun text => ⟨hsome text, ?_⟩⟩
  rw [Option.eq_none_iff_forall_ne_some]
  constructor
  · rintro h ⟨b, bs, hb⟩
    exact h b.token ((hsome _ _).2 ⟨b, bs, hb, rfl⟩)
  · intro h t ht
    obtain ⟨b, bs, hb, -⟩ := (hsome _ _).1 ht
    exact h ⟨b, bs, hb⟩

end Verdict.Token
