import Verdict.Proofs.Rendering

/-! Rendering what has been rendered. Where no value brings an opening brace, no span comes about
that was not in the template: the text between spans neither holds an opening marker nor ends in
half of one, and the spans that were kept hold no token. So rendered text renders to itself. -/

namespace Verdict

/-! ### Texts without an opening marker -/

/-- No opening marker begins in a text, whatever follows it. -/
def Unopened (d : Delimiter) (q : List Point) : Prop :=
  ∀ rest, ∀ j < q.length, ¬ d.opening <+: (q ++ rest).drop j

section Unopened

variable {d : Delimiter} {q pre text : List Point}

theorem Unopened.nil : Unopened d [] := fun _ _ hj => absurd hj (Nat.not_lt_zero _)

/-- Behind a text that opens nothing, a marker begins where it would without that text. -/
theorem Unopened.exists_of_prefix_drop (hq : Unopened d q) {j : Nat}
    (h : d.opening <+: (q ++ text).drop j) : ∃ k, j = q.length + k ∧ d.opening <+: text.drop k := by
  have hj : q.length ≤ j := Nat.le_of_not_lt fun hlt => hq text j hlt h
  obtain ⟨k, rfl⟩ := Nat.exists_eq_add_of_le hj
  rw [List.drop_length_add_append] at h
  exact ⟨k, rfl, h⟩

theorem Unopened.append (hq : Unopened d q) (hpre : Unopened d pre) : Unopened d (q ++ pre) := by
  intro rest j hj hp
  rw [List.append_assoc] at hp
  rw [List.length_append] at hj
  obtain ⟨k, rfl, hk⟩ := hq.exists_of_prefix_drop hp
  exact hpre rest k (Nat.lt_of_add_lt_add_left hj) hk

/-- The first opening marker stays the first behind a text that opens nothing. -/
theorem Unopened.firstAt (hq : Unopened d q)
    (h : FirstAt d.opening (pre ++ d.opening) pre.length) :
    FirstAt d.opening (q ++ pre ++ d.opening) (q ++ pre).length := by
  refine ⟨by simp, fun j hj hp => ?_⟩
  rw [List.append_assoc] at hp
  rw [List.length_append] at hj
  obtain ⟨k, rfl, hk⟩ := hq.exists_of_prefix_drop hp
  exact h.first k (Nat.lt_of_add_lt_add_left hj) hk

theorem Unopened.unclosed (hq : Unopened d q)
    (h : ∀ body, ¬ d.opening ++ body ++ d.closing <:+: text) (body : List Point) :
    ¬ d.opening ++ body ++ d.closing <:+: q ++ text := by
  rw [infix_iff_exists_prefix_drop]
  rintro ⟨i, hi⟩
  have hopening : d.opening <+: (q ++ text).drop i :=
    ((List.prefix_append _ _).trans (List.prefix_append _ _)).trans hi
  obtain ⟨k, rfl, -⟩ := hq.exists_of_prefix_drop hopening
  rw [List.drop_length_add_append] at hi
  exact h body (infix_iff_exists_prefix_drop.2 ⟨k, hi⟩)

theorem unopened_of_not_mem (h : .char '{' ∉ q) : Unopened .default q := by
  intro rest j hj hp
  rw [List.drop_append_of_le_length (Nat.le_of_lt hj), List.drop_eq_getElem_cons hj] at hp
  exact h ((List.cons_prefix_cons.1 hp).1 ▸ List.getElem_mem hj)

/-- Text before the first opening marker does not end in an opening brace, which would make the
marker begin one earlier. -/
theorem unopened_of_firstAt
    (h : FirstAt Delimiter.default.opening (pre ++ Delimiter.default.opening) pre.length) :
    Unopened .default pre := by
  intro rest j hj hp
  refine h.first j hj ?_
  rw [List.drop_append_of_le_length (Nat.le_of_lt hj)] at hp ⊢
  change ("\x7b\x7b" : Text).toList <+: _ at hp
  cases hdrop : pre.drop j with
  | nil => exact absurd (List.drop_eq_nil_iff.1 hdrop) (Nat.not_le_of_lt hj)
  | cons c cs =>
    rw [hdrop] at hp
    obtain ⟨hc, htail⟩ := List.cons_prefix_cons.1 hp
    rw [← hc]
    cases cs with
    | nil => exact ⟨[.char '{'], rfl⟩
    | cons e es =>
      rw [← (List.cons_prefix_cons.1 htail).1]
      exact ⟨es ++ [.char '{', .char '{'], rfl⟩

end Unopened

namespace Template

/-! ### Tokens -/

theorem tokens_append {d : Delimiter} {pre body : List Point} (post : List Point)
    (hpre : FirstAt d.opening (pre ++ d.opening) pre.length)
    (hbody : FirstAt d.closing (body ++ d.closing) body.length) :
    tokens d (pre ++ d.opening ++ body ++ d.closing ++ post) =
      (Token.ofBody? body).toList ++ tokens d post := by
  rw [tokens, tokens, segments_append post hpre hbody, List.filterMap_cons_none rfl]
  cases h : Token.ofBody? body with
  | none => exact List.filterMap_cons_none h
  | some t => exact List.filterMap_cons_some h

theorem tokens_of_unclosed {d : Delimiter} {text : List Point}
    (h : ∀ body, ¬ d.opening ++ body ++ d.closing <:+: text) : tokens d text = [] := by
  rw [tokens, segments_of_unclosed h]
  rfl

/-- Segments without a token leave themselves. -/
theorem renderSegments_of_tokenless (ctx : Context) (d : Delimiter) {segs : List Segment}
    (h : ∀ s ∈ segs, s.token? = none) :
    renderSegments ctx d segs = return segs.flatMap (Segment.source d) := by
  induction segs with
  | nil => rfl
  | cons s segs ih =>
    obtain ⟨hs, hsegs⟩ := List.forall_mem_cons.1 h
    have hself : renderSegment ctx d s = return s.source d := by
      cases s with
      | plain text => rfl
      | span body =>
        rw [renderSegment]
        rw [Segment.token?] at hs
        rw [hs]
    rw [renderSegments, hself, ih hsegs, pure_bind, pure_bind, List.flatMap_cons]

/-- A template without tokens renders to itself and asks nobody. -/
theorem render_of_tokenless (ctx : Context) {d : Delimiter} {s : Text}
    (h : tokens d s.toList = []) : render ctx d (.string s) = return s := by
  rw [render]
  split
  · have hsegs : ∀ seg ∈ segments d s.toList, seg.token? = none := List.filterMap_eq_nil_iff.1 h
    change renderSegments ctx d (segments d s.toList) >>= _ = _
    rw [renderSegments_of_tokenless ctx d hsegs, pure_bind, join_segments, Text.ofList_toList]
  · next hgiven =>
    have hempty : s = "" := by simpa [Datum.isGiven] using hgiven
    rw [hempty]

/-! ### Rendered text -/

theorem exists_of_render_append {ctx : Context} {d : Delimiter} {pre body post : List Point}
    {out : Text} (hpre : FirstAt d.opening (pre ++ d.opening) pre.length)
    (hbody : FirstAt d.closing (body ++ d.closing) body.length)
    (h : (render ctx d
        (.string (.ofList (pre ++ d.opening ++ body ++ d.closing ++ post)))).outcome =
      .ok out) :
    ∃ x rest, spanText ctx d body = .ok x ∧
      (render ctx d (.string (.ofList post))).outcome = .ok rest ∧
      out.toList = pre ++ x.toList ++ rest.toList := by
  rw [render_append ctx d post hpre hbody] at h
  cases hx : spanText ctx d body with
  | error fault => rw [hx] at h; cases h
  | ok x =>
    cases hrest : (render ctx d (.string (.ofList post))).outcome with
    | error fault => rw [hx, hrest] at h; cases h
    | ok rest =>
      rw [hx, hrest] at h
      obtain rfl := Except.ok.inj h
      exact ⟨x, rest, rfl, rfl, by simp⟩

/-- Rendered text holds no token, also behind text that opens nothing. -/
theorem tokens_of_render {ctx : Context} {text : List Point} {out : Text}
    (hbrace : ∀ t ∈ tokens .default text, ∀ x, (ctx.tokenValue t).text = .ok x →
      .char '{' ∉ x.toList)
    (h : (render ctx .default (.string (.ofList text))).outcome = .ok out) :
    ∀ q, Unopened .default q → tokens .default (q ++ out.toList) = [] := by
  induction text using spanInduction .default generalizing out with
  | unclosed text hunclosed =>
    intro q hq
    rw [render_of_unclosed ctx _ hunclosed] at h
    obtain rfl := Except.ok.inj h
    rw [Text.toList_ofList]
    exact tokens_of_unclosed (hq.unclosed hunclosed)
  | span pre body post hpre hbody ih =>
    intro q hq
    obtain ⟨x, rest, hx, hrest, hout⟩ := exists_of_render_append hpre hbody h
    rw [tokens_append post hpre hbody] at hbrace
    have hpost := ih (fun t ht => hbrace t (List.mem_append_right _ ht)) hrest
    rw [hout]
    cases htoken : Token.ofBody? body with
    | none =>
      -- the span is kept, and the next scan finds it again and no token in it
      rw [spanText, htoken] at hx
      obtain rfl := Except.ok.inj hx
      have hscan := tokens_append rest.toList (hq.firstAt hpre) hbody
      have hrest : tokens .default rest.toList = [] := hpost [] .nil
      rw [htoken, hrest] at hscan
      simpa using hscan
    | some t =>
      -- the value joins the text before it, and nothing in there opens a span
      rw [spanText, htoken] at hx
      have hx := unopened_of_not_mem (hbrace t (by simp [htoken]) x hx)
      have hscan := hpost _ ((hq.append (unopened_of_firstAt hpre)).append hx)
      simpa using hscan

theorem render_of_word? {template : Datum} {s : Text} (h : template.word? = some s)
    (ctx : Context) (d : Delimiter) : render ctx d template = render ctx d (.string s) := by
  cases template with
  | string s' =>
    obtain rfl := Option.some.inj h
    rfl
  | symbol w =>
    obtain rfl := Option.some.inj h
    have hgiven : (Datum.string w.text).isGiven = true := by
      rcases w with op | op | op | op <;> cases op <;> decide
    rw [render, render, if_pos hgiven]
    rfl
  | _ => cases h

/-- Rendering a second time changes nothing, in whatever context: it asks nobody and returns the
text as it is. -/
theorem render_rendered (a b : Context) (template : Datum) (out : Text)
    (hbrace : ∀ s, template.requireText = .ok s → ∀ t ∈ tokens .default s.toList,
      ∀ x, (a.tokenValue t).text = .ok x → .char '{' ∉ x.toList)
    (h : (render a .default template).outcome = .ok out) :
    render b .default (.string out) = return out := by
  refine render_of_tokenless b ?_
  cases hword : template.word? with
  | some s =>
    rw [render_of_word? hword, ← Text.ofList_toList (t := s)] at h
    have hs : template.requireText = .ok s := by rw [Datum.requireText, hword]
    exact tokens_of_render (hbrace s hs) h [] .nil
  | none =>
    rw [render] at h
    split at h
    · rw [Datum.requireText, hword] at h
      cases h
    · obtain rfl := Except.ok.inj h
      exact tokens_of_unclosed fun body hspan => List.cons_ne_nil _ _ (List.infix_nil.1 hspan)

/-- Braces on both sides of an empty value, a span without a token, and markers left open. -/
theorem render_rendered_braces_left :
    let a : Context := ⟨fun _ => .ok .null, .empty, .known .default, {}⟩
    let b : Context := ⟨fun _ => .ok (.string "y"), .empty, .known .default, {}⟩
    let template := "\x7b\x7b(\x7d\x7d \x7b\x7bn\x7d\x7d\x7bx\x7d\x7d \x7b\x7b"
    let out := "\x7b\x7b(\x7d\x7d \x7bx\x7d\x7d \x7b\x7b"
    (render a .default (.string template)).outcome = .ok out ∧
      render b .default (.string out) = return out := by
  intro a b template out
  have hsome : (render a .default (.string template)).outcome.toOption = some out := by
    decide +kernel
  have h : (render a .default (.string template)).outcome = .ok out := by
    cases hr : (render a .default (.string template)).outcome with
    | error fault =>
      rw [hr] at hsome
      cases hsome
    | ok x =>
      rw [hr] at hsome
      exact congrArg Except.ok (Option.some.inj hsome)
  refine ⟨h, render_rendered a b _ out (fun s hs t ht x hx => ?_) h⟩
  -- every token of the template stands for the absent value, which leaves nothing
  have htext : (a.tokenValue t).text = .ok "" := by
    obtain ⟨name, _ | function⟩ := t <;> rfl
  obtain rfl := Except.ok.inj (htext.symm.trans hx)
  decide

end Template

end Verdict
