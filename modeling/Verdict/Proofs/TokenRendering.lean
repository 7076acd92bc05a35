import Verdict.Proofs.Rendering
import Verdict.Proofs.TokenText

/-! Token text as an operand and as a template. The operand takes its first span and the
template all of them, and each span alone gives the same value both ways. -/

namespace Verdict

/-- Text in an operand's place. -/
def Operand.ofText (text : List Point) : Operand := .token (.string (.ofList text))

/-- The text of what an operand comes to. -/
def Operand.text (ctx : Context) (x : Operand) : Except Fault Text := do
  let v ← (x.resolve ctx).outcome
  v.text

namespace Token

/-! ### Spans of token text -/

theorem parse?_spell (b : Body) (bs : List Body) : parse? (spell (b :: bs)) = some b.token := by
  rw [parse?, (all?_eq_some_iff _ _).2 ⟨b :: bs, rfl, rfl⟩]
  rfl

theorem parse?_span (b : Body) : parse? b.span = some b.token := by
  have hspell : spell [b] = b.span := by simp [spell]
  rw [← hspell, parse?_spell]

theorem exists_spell_of_parse? {text : List Point} (h : parse? text ≠ none) :
    ∃ b bs, spell (b :: bs) = text := by
  obtain ⟨t, ht⟩ := Option.ne_none_iff_exists'.1 h
  obtain ⟨ts, hts, ht⟩ := Option.bind_eq_some_iff.1 ht
  obtain ⟨bs, rfl, rfl⟩ := (all?_eq_some_iff _ _).1 hts
  cases bs with
  | nil => cases ht
  | cons b bs => exact ⟨b, bs, rfl⟩

/-- Token text opens with a brace. -/
theorem head?_of_parse? {text : List Point} (h : parse? text ≠ none) :
    text.head? = some (.char '\x7b') := by
  obtain ⟨b, bs, rfl⟩ := exists_spell_of_parse? h
  rfl

theorem source_ofSegments_spell (position : Nat) (bs : List Body) :
    (Span.ofSegments .default position (segments .default (spell bs))).map Span.source =
      bs.map Body.span := by
  induction bs generalizing position with
  | nil =>
    rw [show spell [] = [] from rfl, segments_of_cut_eq_none rfl]
    rfl
  | cons b bs ih =>
    rw [spell_cons, segments_span_append, Span.ofSegments, Span.ofSegments, List.map_cons, ih]
    rfl

/-- The spans found in a text are the spans that spell it. -/
theorem source_spans_spell (bs : List Body) :
    (spans .default (spell bs)).map Span.source = bs.map Body.span := source_ofSegments_spell 0 bs

end Token

namespace Operand

open Token

variable (ctx : Context)

theorem resolve_ofText {text : List Point} {t : Token} (h : parse? text = some t) :
    (ofText text).resolve ctx = ctx.resolveToken t := by
  have ht : Token.ofDatum? (.string (.ofList text)) = some t := by
    rw [← h]
    exact congrArg parse? Text.toList_ofList
  rw [ofText, resolve, ht]

theorem text_eq (x : Operand) : x.text ctx = (x.value ctx).text := by
  rw [text, resolve_outcome]
  rfl

theorem value_ofText {text : List Point} {t : Token} (h : parse? text = some t) :
    (ofText text).value ctx = ctx.tokenValue t := by
  have hresolve := congrArg Traced.outcome (resolve_ofText ctx h)
  rw [resolve_outcome, ctx.resolveToken_outcome] at hresolve
  exact Except.ok.inj hresolve

end Operand

namespace Template

open Token

variable (ctx : Context)

/-- A span leaves in a template what it comes to as an operand. -/
theorem spanText_body (b : Body) :
    spanText ctx .default b.text = (Operand.ofText b.span).text ctx := by
  rw [spanText, (ofBody?_eq_some_iff _ _).2 ⟨b, rfl, rfl⟩, Operand.text_eq,
    Operand.value_ofText ctx (parse?_span b)]

theorem render_spell (bs : List Body) :
    (render ctx .default (.string (.ofList (spell bs)))).outcome =
      ((bs.map Body.span).mapM fun s => (Operand.ofText s).text ctx).map Text.join := by
  rw [render_outcome]
  induction bs with
  | nil =>
    rw [show spell [] = [] from rfl, segments_of_cut_eq_none rfl]
    rfl
  | cons b bs ih =>
    rw [spell_cons, segments_span_append, join_mapM_cons, join_mapM_cons, ih, List.map_cons,
      join_mapM_cons, segmentText, segmentText, spanText_body]
    -- the plain text before a span that opens the text is empty
    cases (Operand.ofText b.span).text ctx with
    | error fault => rfl
    | ok x =>
      cases ((bs.map Body.span).mapM fun s => (Operand.ofText s).text ctx).map Text.join with
      | error fault => rfl
      | ok rest => exact congrArg Except.ok Text.empty_append

theorem exists_mapM_ok {α β : Type} {f : α → Except Fault β} {as : List α}
    (h : ∀ a ∈ as, ∃ b, f a = .ok b) : ∃ bs, as.mapM f = .ok bs := by
  induction as with
  | nil => exact ⟨[], rfl⟩
  | cons a as ih =>
    obtain ⟨⟨b, hb⟩, has⟩ := List.forall_mem_cons.1 h
    obtain ⟨bs, hbs⟩ := ih has
    exact ⟨b :: bs, by rw [List.mapM_cons, hb, hbs]; rfl⟩

theorem exists_render_spell_ok (bs : List Body)
    (h : ∀ s ∈ bs.map Body.span, ¬ ((Operand.ofText s).value ctx).IsOverlong) :
    ∃ texts, (bs.map Body.span).mapM (fun s => (Operand.ofText s).text ctx) = .ok texts ∧
      (render ctx .default (.string (.ofList (spell bs)))).outcome = .ok (Text.join texts) := by
  have hone : ∀ s ∈ bs.map Body.span, ∃ x, (Operand.ofText s).text ctx = .ok x := by
    intro s hs
    rw [Operand.text_eq]
    exact Value.text_of_not_isOverlong (h s hs)
  obtain ⟨texts, htexts⟩ := exists_mapM_ok hone
  refine ⟨texts, htexts, ?_⟩
  rw [render_spell, htexts]
  rfl

/-- Token text is cut into spans without a gap, each of them token text. As an operand it comes
to what its first span comes to, and as a template it renders to the texts of what its spans
come to as operands; it does render unless one of these is an integer past the digit limit. -/
theorem render_tokenText (ctx : Context) (text : List Point) (h : parse? text ≠ none) :
    ∃ first rest, (spans .default text).map Span.source = first :: rest ∧
      (first :: rest).flatten = text ∧ (∀ s ∈ first :: rest, parse? s ≠ none) ∧
      (Operand.ofText text).resolve ctx = (Operand.ofText first).resolve ctx ∧
      (render ctx .default (.string (.ofList text))).outcome =
        ((first :: rest).mapM fun s => (Operand.ofText s).text ctx).map Text.join ∧
      (rest = [] → (render ctx .default (.string (.ofList text))).outcome =
        (Operand.ofText text).text ctx) ∧
      ((∀ s ∈ first :: rest, ¬ ((Operand.ofText s).value ctx).IsOverlong) →
        ∃ texts, (first :: rest).mapM (fun s => (Operand.ofText s).text ctx) = .ok texts ∧
          (render ctx .default (.string (.ofList text))).outcome = .ok (Text.join texts)) := by
  obtain ⟨b, bs, rfl⟩ := exists_spell_of_parse? h
  have hresolve : (Operand.ofText (spell (b :: bs))).resolve ctx =
      (Operand.ofText b.span).resolve ctx := by
    rw [Operand.resolve_ofText ctx (parse?_spell b bs), Operand.resolve_ofText ctx (parse?_span b)]
  have htext : (Operand.ofText (spell (b :: bs))).text ctx = (Operand.ofText b.span).text ctx := by
    rw [Operand.text, Operand.text, hresolve]
  have hrender := render_spell ctx (b :: bs)
  refine ⟨b.span, bs.map Body.span, source_spans_spell (b :: bs), ?_, ?_, hresolve, hrender, ?_, ?_⟩
  · rw [← List.map_cons, ← List.flatMap_def]
    rfl
  · intro s hs
    rw [← List.map_cons] at hs
    obtain ⟨c, -, rfl⟩ := List.mem_map.1 hs
    simp [parse?_span c]
  · intro hrest
    rw [hrender, List.map_cons, hrest, join_mapM_cons, htext]
    cases (Operand.ofText b.span).text ctx with
    | error fault => rfl
    | ok x => exact congrArg Except.ok Text.append_empty
  · exact fun hfit => exists_render_spell_ok ctx (b :: bs) hfit

theorem render_tokenText_two_spans :
    let ctx : Context := ⟨fun name => .ok (.string name), .empty, .known .default, {}⟩
    let text := ("\x7b\x7bx\x7d\x7d\x7b\x7b f(y)\x7d\x7d" : Text).toList
    parse? text ≠ none ∧ ∃ first rest, (first :: rest).flatten = text ∧
      (Operand.ofText text).resolve ctx = (Operand.ofText first).resolve ctx := by
  intro ctx text
  have h : parse? text ≠ none := by decide +kernel
  obtain ⟨first, rest, -, hflatten, -, hresolve, -⟩ := render_tokenText ctx text h
  exact ⟨h, first, rest, hflatten, hresolve⟩

end Template

end Verdict
