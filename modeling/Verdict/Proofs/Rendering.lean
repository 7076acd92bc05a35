import Verdict.Proofs.Agreement
import Verdict.Proofs.DigitLimit
import Verdict.Proofs.Text.Marker

/-! What templates render to. A template leaves the texts of its segments one after the other,
each made from that segment alone: what was put in is not looked at again, and what follows a
span renders as if it stood alone. -/

namespace Verdict

attribute [local instance] powOfNatPow

namespace Value

theorem text_of_isOverlong {v : Value} (h : v.IsOverlong) : v.text = .error .digitLimit := by
  obtain ⟨n, rfl, hn⟩ := h
  have hfit : Numeral.fitsText n = false := decide_eq_false (Nat.not_lt.2 hn)
  rw [text, Number.templateText, Number.text, hfit]
  rfl

theorem text_of_not_isOverlong {v : Value} (h : ¬ v.IsOverlong) : ∃ s, v.text = .ok s := by
  rcases v with s | (n | x) | (_ | _) | _
  · exact ⟨s, rfl⟩
  · rw [isOverlong_int_iff, Nat.not_le] at h
    have hfit : Numeral.fitsText n = true := decide_eq_true h
    rw [text, Number.templateText, Number.text, hfit]
    exact ⟨_, rfl⟩
  · rw [text, Number.templateText]
    split <;> exact ⟨_, rfl⟩
  · exact ⟨_, rfl⟩
  · exact ⟨_, rfl⟩
  · exact ⟨_, rfl⟩

theorem text_fault_iff (v : Value) (fault : Fault) :
    v.text = .error fault ↔ fault = .digitLimit ∧ v.IsOverlong := by
  by_cases h : v.IsOverlong
  · simp [text_of_isOverlong h, h, eq_comm]
  · obtain ⟨s, hs⟩ := text_of_not_isOverlong h
    simp [hs, h]

end Value

/-- Texts made one by one and joined; the first fault ends it. -/
theorem join_mapM_cons {α : Type} (f : α → Except Fault Text) (a : α) (as : List α) :
    ((a :: as).mapM f).map Text.join = do
      let x ← f a
      let rest ← (as.mapM f).map Text.join
      return x ++ rest := by
  rw [List.mapM_cons]
  cases f a with
  | error fault => rfl
  | ok x =>
    cases as.mapM f with
    | error fault => rfl
    | ok texts => exact congrArg Except.ok Text.join_cons

namespace Template

variable (ctx : Context) (d : Delimiter)

/-! ### Segments -/

/-- What a span leaves: the text of its token's value, or the span as it is if it holds none. -/
def spanText (body : List Point) : Except Fault Text :=
  match Token.ofBody? body with
  | some t => (ctx.tokenValue t).text
  | none => .ok (.ofList (d.opening ++ body ++ d.closing))

def segmentText : Segment → Except Fault Text
  | .plain text => .ok (.ofList text)
  | .span body => spanText ctx d body

theorem renderSegment_outcome (s : Segment) :
    (renderSegment ctx d s).outcome = (segmentText ctx d s).map Text.toList := by
  cases s with
  | plain text =>
    rw [renderSegment, segmentText]
    simp [Except.map]
  | span body =>
    rw [renderSegment, segmentText, spanText]
    cases Token.ofBody? body with
    | none => simp [Except.map, Segment.source]
    | some t =>
      dsimp only
      rw [Traced.outcome_bind_of_ok (ctx.resolveToken_outcome t)]
      cases (ctx.tokenValue t).text <;> rfl

theorem renderSegments_outcome (segs : List Segment) :
    (renderSegments ctx d segs).outcome =
      ((segs.mapM (segmentText ctx d)).map Text.join).map Text.toList := by
  induction segs with
  | nil => rfl
  | cons s segs ih =>
    have hs := renderSegment_outcome ctx d s
    rw [renderSegments, join_mapM_cons]
    cases htext : segmentText ctx d s with
    | error fault =>
      rw [htext] at hs
      exact Traced.outcome_bind_of_error hs
    | ok text =>
      rw [htext] at hs
      rw [Traced.outcome_bind_of_ok hs, Traced.outcome_bind_pure, ih]
      cases (segs.mapM (segmentText ctx d)).map Text.join with
      | error fault => rfl
      | ok rest => exact congrArg Except.ok Text.toList_append.symm

/-- A template renders to the texts of its segments, or to the first fault among them. -/
theorem render_outcome (text : List Point) :
    (render ctx d (.string (.ofList text))).outcome =
      ((segments d text).mapM (segmentText ctx d)).map Text.join := by
  rw [render]
  by_cases htext : text = []
  · -- the empty text counts as no template, and has one empty segment
    have hunclosed : ∀ body, ¬ d.opening ++ body ++ d.closing <:+: text := by
      simp [htext, d.opening_ne]
    rw [segments_of_unclosed hunclosed, htext]
    rfl
  · have hgiven : (Datum.string (.ofList text)).isGiven = true := by
      simpa [Datum.isGiven, Text.ext_iff] using htext
    rw [if_pos hgiven]
    change (renderText ctx d (Text.ofList text).toList >>= fun cs =>
      pure (Text.ofList cs)).outcome = _
    rw [Traced.outcome_bind_pure, Text.toList_ofList, renderText, renderSegments_outcome]
    cases ((segments d text).mapM (segmentText ctx d)).map Text.join with
    | error fault => rfl
    | ok out => exact congrArg Except.ok Text.ofList_toList

/-! ### Faults -/

theorem segmentText_fault_iff (s : Segment) (fault : Fault) :
    segmentText ctx d s = .error fault ↔
      fault = .digitLimit ∧ ∃ t, s.token? = some t ∧ (ctx.tokenValue t).IsOverlong := by
  cases s with
  | plain text => simp [segmentText, Segment.token?]
  | span body =>
    rw [segmentText, spanText, Segment.token?]
    cases Token.ofBody? body with
    | none => simp
    | some t => simp [Value.text_fault_iff]

theorem mapM_segmentText_fault_iff (segs : List Segment) (fault : Fault) :
    segs.mapM (segmentText ctx d) = .error fault ↔
      fault = .digitLimit ∧ ∃ t ∈ segs.filterMap Segment.token?, (ctx.tokenValue t).IsOverlong := by
  induction segs with
  | nil => simp [pure, Except.pure]
  | cons s segs ih =>
    have hcons : (∃ t ∈ (s :: segs).filterMap Segment.token?, (ctx.tokenValue t).IsOverlong) ↔
        (∃ t, s.token? = some t ∧ (ctx.tokenValue t).IsOverlong) ∨
          ∃ t ∈ segs.filterMap Segment.token?, (ctx.tokenValue t).IsOverlong := by
      simp only [List.mem_filterMap]
      grind
    rw [List.mapM_cons, hcons, and_or_left, ← segmentText_fault_iff ctx d, ← ih]
    cases hs : segmentText ctx d s with
    | error e =>
      obtain ⟨rfl, -⟩ := (segmentText_fault_iff ctx d s e).1 hs
      change Except.error _ = _ ↔ _
      rw [Except.error.injEq, Except.error.injEq]
      exact ⟨.inl, fun h => h.elim id fun hrest => (ih.1 hrest).1.symm⟩
    | ok text =>
      cases segs.mapM (segmentText ctx d) <;> simp [bind, Except.bind, pure, Except.pure]

/-- Rendering ends in no fault but the digit limit, and in that exactly if a token stands for
an integer past it. -/
theorem render_fault_iff (text : List Point) (fault : Fault) :
    (render ctx d (.string (.ofList text))).outcome = .error fault ↔
      fault = .digitLimit ∧ ∃ t ∈ tokens d text, (ctx.tokenValue t).IsOverlong := by
  rw [render_outcome, tokens, ← mapM_segmentText_fault_iff ctx d]
  cases (segments d text).mapM (segmentText ctx d) <;> simp [Except.map]

/-! ### Spans in place -/

/-- Before the first span stands plain text; behind it the template goes on as one of its own. -/
theorem render_append {pre body : List Point} (post : List Point)
    (hpre : FirstAt d.opening (pre ++ d.opening) pre.length)
    (hbody : FirstAt d.closing (body ++ d.closing) body.length) :
    (render ctx d (.string (.ofList (pre ++ d.opening ++ body ++ d.closing ++ post)))).outcome = do
      let x ← spanText ctx d body
      let rest ← (render ctx d (.string (.ofList post))).outcome
      return .ofList pre ++ x ++ rest := by
  rw [render_outcome, render_outcome, segments_append post hpre hbody, join_mapM_cons,
    join_mapM_cons, segmentText, segmentText]
  cases spanText ctx d body with
  | error fault => rfl
  | ok x =>
    cases ((segments d post).mapM (segmentText ctx d)).map Text.join with
    | error fault => rfl
    | ok rest => exact congrArg Except.ok (Text.append_assoc ..).symm

theorem render_of_unclosed {text : List Point}
    (h : ∀ body, ¬ d.opening ++ body ++ d.closing <:+: text) :
    (render ctx d (.string (.ofList text))).outcome = .ok (.ofList text) := by
  rw [render_outcome, segments_of_unclosed h, join_mapM_cons, segmentText]
  exact congrArg Except.ok Text.append_empty

theorem exists_render_ok {text : List Point}
    (h : ∀ t ∈ tokens d text, ¬ (ctx.tokenValue t).IsOverlong) :
    ∃ out, (render ctx d (.string (.ofList text))).outcome = .ok out := by
  cases hr : (render ctx d (.string (.ofList text))).outcome with
  | ok out => exact ⟨out, rfl⟩
  | error fault =>
    obtain ⟨-, t, ht, hv⟩ := (render_fault_iff ctx d text fault).1 hr
    exact absurd hv (h t ht)

/-- Whatever a template holds, however its spans are marked, and whoever raises on the way,
rendering returns a text, unless a token stands for an integer past the digit limit; and it
ends in no other fault. -/
theorem render_returns_iff (ctx : Context) (d : Delimiter) (template : Text) :
    ((∃ out, (render ctx d (.string template)).outcome = .ok out) ↔
      ∀ t ∈ tokens d template.toList, ¬ (ctx.tokenValue t).IsOverlong) ∧
    ∀ fault, (render ctx d (.string template)).outcome = .error fault → fault = .digitLimit := by
  rw [← Text.ofList_toList (t := template), Text.toList_ofList]
  refine ⟨⟨?_, exists_render_ok ctx d⟩, fun fault h => ((render_fault_iff ctx d _ fault).1 h).1⟩
  rintro ⟨out, hout⟩ t ht hv
  have hfault := (render_fault_iff ctx d template.toList .digitLimit).2 ⟨rfl, t, ht, hv⟩
  rw [hout] at hfault
  cases hfault

/-- An integer that was taken as data, and that no text can show. -/
theorem render_raises_on_overlong_data :
    let entries := [(Datum.string "n", Datum.number (.int (10 ^ digitLimit)))]
    let ctx : Context := ⟨mappingResolver entries, .empty, .known .default, {}⟩
    (render ctx .default (.string "\x7b\x7bn\x7d\x7d")).outcome = .error .digitLimit ∧
      ¬ ∀ (ctx : Context) (d : Delimiter) (template : Text),
        ∃ out, (render ctx d (.string template)).outcome = .ok out := by
  intro entries ctx
  have htoken : (⟨"n", none⟩ : Token) ∈ tokens .default ("\x7b\x7bn\x7d\x7d" : Text).toList := by
    decide +kernel
  have hv : (ctx.tokenValue ⟨"n", none⟩).IsOverlong :=
    ⟨10 ^ digitLimit, rfl, by simp [Int.natAbs_pow]⟩
  have hfault : (render ctx .default (.string "\x7b\x7bn\x7d\x7d")).outcome =
      .error .digitLimit :=
    (render_fault_iff ctx .default ("\x7b\x7bn\x7d\x7d" : Text).toList .digitLimit).2
      ⟨rfl, _, htoken, hv⟩
  refine ⟨hfault, fun htotal => ?_⟩
  obtain ⟨out, hout⟩ := htotal ctx .default "\x7b\x7bn\x7d\x7d"
  rw [hout] at hfault
  cases hfault

/-- Rendering replaces each span once and keeps all else: at its first span a template falls
apart into plain text, what the span leaves, and the rest rendered as if it stood alone. A
template without a closed span renders to itself, and only an integer past the digit limit
keeps a template from rendering. -/
theorem render_compositional (ctx : Context) (d : Delimiter) :
    (∀ pre body post : List Point, FirstAt d.opening (pre ++ d.opening) pre.length →
      FirstAt d.closing (body ++ d.closing) body.length →
      (render ctx d (.string (.ofList (pre ++ d.opening ++ body ++ d.closing ++ post)))).outcome =
        do
          let x ← spanText ctx d body
          let rest ← (render ctx d (.string (.ofList post))).outcome
          return .ofList pre ++ x ++ rest) ∧
    (∀ text : List Point, (∀ body, ¬ d.opening ++ body ++ d.closing <:+: text) →
      (render ctx d (.string (.ofList text))).outcome = .ok (.ofList text)) ∧
    ∀ text : List Point, (∀ t ∈ tokens d text, ¬ (ctx.tokenValue t).IsOverlong) →
      ∃ out, (render ctx d (.string (.ofList text))).outcome = .ok out :=
  ⟨fun _ _ post hpre hbody => render_append ctx d post hpre hbody,
    fun _ h => render_of_unclosed ctx d h, fun _ h => exists_render_ok ctx d h⟩

theorem render_compositional_percent :
    let ctx : Context := ⟨fun _ => .ok (.string "%y%"), .empty, .known .default, {}⟩
    let d : Delimiter := ⟨[.char '%'], [.char '%'], by decide, by decide⟩
    (render ctx d (.string "a%x%b")).outcome = .ok "a%y%b" := by
  intro ctx d
  obtain ⟨hspan, hplain, -⟩ := render_compositional ctx d
  have hb : (render ctx d (.string (.ofList [.char 'b']))).outcome = .ok (.ofList [.char 'b']) := by
    refine hplain [.char 'b'] fun body h => ?_
    have hlen := h.length_le
    simp [d] at hlen
  have hx : spanText ctx d [.char 'x'] = .ok "%y%" := rfl
  have h := hspan [.char 'a'] [.char 'x'] [.char 'b'] ⟨by decide, by decide⟩ ⟨by decide, by decide⟩
  rw [hx, hb] at h
  exact h

end Template

end Verdict
