import Mathlib.Order.Bounds.Basic
import Verdict.Proofs.Text.Marker
import Verdict.Token

/-! Where the spans of a text stand. Each opens at the first opening marker behind the span before
it and closes at the first closing marker behind its own opening one; behind the last span no
opening marker is closed. Only one list of spans is like this, and with the gaps between them
these spans make up the text. -/

namespace Verdict

variable {d : Delimiter} {marker text rest : List Point} {position i j : Nat} {s s' : Span}
  {found found' : List Span}

/-! ### Slices -/

theorem extract_append (before part after : List Point) :
    (before ++ part ++ after).extract before.length (before.length + part.length) = part := by
  rw [List.extract_eq_take_drop, List.append_assoc, List.drop_left, Nat.add_sub_cancel_left,
    List.take_left]

theorem extract_append_drop (h : i ≤ j) (text : List Point) :
    text.extract i j ++ text.drop j = text.drop i := by
  obtain ⟨n, rfl⟩ := Nat.exists_eq_add_of_le h
  rw [List.extract_eq_take_drop, Nat.add_sub_cancel_left, ← List.drop_drop, List.take_append_drop]

/-! ### Places -/

/-- The places of a marker in a text from a position on. -/
def placesFrom (marker text : List Point) (position : Nat) : Set Nat :=
  {i | position ≤ i ∧ marker <+: text.drop i}

theorem add_length_le_of_mem_placesFrom (hne : marker ≠ [])
    (h : i ∈ placesFrom marker text position) : i + marker.length ≤ text.length := by
  have hlen := h.2.length_le
  have hpos := List.length_pos_iff.2 hne
  rw [List.length_drop] at hlen
  omega

/-- The first place in the rest of a text is the least one from there on. -/
theorem FirstAt.isLeast (h : FirstAt marker rest i) (before : List Point) :
    IsLeast (placesFrom marker (before ++ rest) before.length) (before.length + i) := by
  constructor
  · refine ⟨Nat.le_add_right _ _, ?_⟩
    rw [List.drop_length_add_append]
    exact h.occurs
  · rintro j ⟨hle, hj⟩
    obtain ⟨k, rfl⟩ := Nat.exists_eq_add_of_le hle
    rw [List.drop_length_add_append] at hj
    exact Nat.add_le_add_left (Nat.le_of_not_lt fun hlt => h.first k hlt hj) _

/-- An opening marker and a closing one behind it enclose a body. -/
theorem exists_body_of_places (before : List Point)
    (hi : i ∈ placesFrom d.opening (before ++ rest) before.length)
    (hj : j ∈ placesFrom d.closing (before ++ rest) (i + d.opening.length)) :
    ∃ body, d.opening ++ body ++ d.closing <:+: rest := by
  obtain ⟨hle, behind, hopening⟩ := hi
  obtain ⟨hle', after, hclosing⟩ := hj
  obtain ⟨k, rfl⟩ := Nat.exists_eq_add_of_le hle
  obtain ⟨n, rfl⟩ := Nat.exists_eq_add_of_le hle'
  rw [List.drop_length_add_append] at hopening
  rw [Nat.add_assoc, Nat.add_assoc, List.drop_length_add_append, ← List.drop_drop, ← hopening,
    List.drop_length_add_append] at hclosing
  refine ⟨behind.take n, infix_iff_exists_prefix_drop.2 ⟨k, after, ?_⟩⟩
  rw [← hopening, List.append_assoc, List.append_assoc, hclosing, List.take_append_drop]

/-! ### The scan -/

/-- The span is the first one from a position on. It opens at the first opening marker, closes at
the first closing marker behind that one and holds the token of what stands between the two. -/
structure Span.IsNext (d : Delimiter) (text : List Point) (position : Nat) (s : Span) : Prop where
  opens : IsLeast (placesFrom d.opening text position) s.start
  closes : ∃ close, IsLeast (placesFrom d.closing text (s.start + d.opening.length)) close ∧
    s.stop = close + d.closing.length ∧
    s.token = Token.ofBody? (text.extract (s.start + d.opening.length) close)
  source : s.source = text.extract s.start s.stop

/-- The spans that are found one after the other from a position on. The scan ends where no
opening marker has a closing one behind it. -/
inductive Scan (d : Delimiter) (text : List Point) : Nat → List Span → Prop
  | done {position : Nat}
      (unclosed : ∀ i ∈ placesFrom d.opening text position,
        placesFrom d.closing text (i + d.opening.length) = ∅) : Scan d text position []
  | next {position : Nat} {s : Span} {found : List Span} (first : s.IsNext d text position)
      (rest : Scan d text s.stop found) : Scan d text position (s :: found)

/-- A span that is cut off where its markers first stand is the next one. -/
theorem isNext_of_firstAt {pre body : List Point} (before post : List Point)
    (hpre : FirstAt d.opening (pre ++ d.opening) pre.length)
    (hbody : FirstAt d.closing (body ++ d.closing) body.length) :
    let source := d.opening ++ body ++ d.closing
    let start := (before ++ pre).length
    Span.IsNext d (before ++ pre ++ source ++ post) before.length
      ⟨start, start + source.length, source, Token.ofBody? body⟩ := by
  intro source start
  constructor
  · have hopening := (hpre.append (body ++ d.closing ++ post)).isLeast before
    simpa [source, start] using hopening
  · refine ⟨start + d.opening.length + body.length, ?_, ?_, ?_⟩
    · have hclosing := (hbody.append post).isLeast (before ++ pre ++ d.opening)
      simpa [source, start, Nat.add_assoc] using hclosing
    · simp [source, Nat.add_assoc]
    · have hbetween := extract_append (before ++ pre ++ d.opening) body (d.closing ++ post)
      rw [List.length_append] at hbetween
      simpa [source, start] using congrArg Token.ofBody? hbetween.symm
  · exact (extract_append (before ++ pre) source post).symm

/-- What a text is cut into behind any other text is what a scan finds there. -/
theorem scan_ofSegments (d : Delimiter) (before rest : List Point) :
    Scan d (before ++ rest) before.length (Span.ofSegments d before.length (segments d rest)) := by
  induction rest using spanInduction d generalizing before with
  | unclosed rest h =>
    rw [segments_of_unclosed h]
    refine .done fun i hi => Set.eq_empty_of_forall_notMem fun j hj => ?_
    obtain ⟨body, hbody⟩ := exists_body_of_places before hi hj
    exact h body hbody
  | span pre body post hpre hbody ih =>
    -- behind the span, all of it counts as text before the rest
    have htext : before ++ (pre ++ d.opening ++ body ++ d.closing ++ post) =
        before ++ pre ++ (d.opening ++ body ++ d.closing) ++ post := by simp
    have hrest := ih (before ++ pre ++ (d.opening ++ body ++ d.closing))
    rw [List.length_append] at hrest
    rw [segments_append post hpre hbody, Span.ofSegments, Span.ofSegments, htext,
      ← List.length_append]
    exact .next (isNext_of_firstAt before post hpre hbody) hrest

/-! ### What a scan finds -/

namespace Span

attribute [ext] Span

namespace IsNext

theorem nonempty_closing (h : s.IsNext d text position) :
    (placesFrom d.closing text (s.start + d.opening.length)).Nonempty := by
  obtain ⟨close, hclose, -⟩ := h.closes
  exact ⟨close, hclose.1⟩

theorem unique (h : s.IsNext d text position) (h' : s'.IsNext d text position) : s = s' := by
  have hstart : s.start = s'.start := h.opens.unique h'.opens
  obtain ⟨close, hclose, hstop, htoken⟩ := h.closes
  obtain ⟨close', hclose', hstop', htoken'⟩ := h'.closes
  rw [← hstart] at hclose' htoken'
  obtain rfl := hclose.unique hclose'
  have hends : s.stop = s'.stop := hstop.trans hstop'.symm
  refine Span.ext hstart hends ?_ (htoken.trans htoken'.symm)
  rw [h.source, h'.source, hstart, hends]

theorem bounds (h : s.IsNext d text position) :
    position ≤ s.start ∧ s.start < s.stop ∧ s.stop ≤ text.length := by
  obtain ⟨close, hclose, hstop, -⟩ := h.closes
  have hfrom := h.opens.1.1
  have hbehind := hclose.1.1
  have hends := add_length_le_of_mem_placesFrom d.closing_ne hclose.1
  have hpos := List.length_pos_iff.2 d.closing_ne
  omega

end IsNext

/-- The text from a position on, put together from the gaps before the spans, the sources of the
spans and what follows the last one. -/
def rejoin (text : List Point) (position : Nat) : List Span → List Point
  | [] => text.drop position
  | s :: found => text.extract position s.start ++ s.source ++ rejoin text s.stop found

/-- Spans that stand in a text one behind the other and make it up with the gaps between them. -/
structure LaidOut (text : List Point) (found : List Span) : Prop where
  inside : ∀ s ∈ found, s.start < s.stop ∧ s.stop ≤ text.length
  ordered : found.Pairwise fun s t => s.start < t.start ∧ s.stop ≤ t.start
  rejoined : rejoin text 0 found = text

end Span

namespace Scan

theorem unique (h : Scan d text position found) (h' : Scan d text position found') :
    found = found' := by
  -- where one scan is done, the next span of the other would have no closing marker
  induction h generalizing found' with
  | done unclosed =>
    cases h' with
    | done => rfl
    | next first rest => exact absurd (unclosed _ first.opens.1) first.nonempty_closing.ne_empty
  | next first rest ih =>
    cases h' with
    | done unclosed => exact absurd (unclosed _ first.opens.1) first.nonempty_closing.ne_empty
    | next first' rest' =>
      obtain rfl := first.unique first'
      rw [ih rest']

theorem bounds (h : Scan d text position found) :
    ∀ s ∈ found, position ≤ s.start ∧ s.start < s.stop ∧ s.stop ≤ text.length := by
  induction h with
  | done => exact List.forall_mem_nil _
  | next first rest ih =>
    have hfirst := first.bounds
    refine List.forall_mem_cons.2 ⟨hfirst, fun t ht => ?_⟩
    have hrest := ih t ht
    omega

theorem pairwise (h : Scan d text position found) :
    found.Pairwise fun s t => s.start < t.start ∧ s.stop ≤ t.start := by
  induction h with
  | done => exact .nil
  | next first rest ih =>
    have hfirst := first.bounds
    refine .cons (fun t ht => ?_) ih
    have hrest := rest.bounds t ht
    omega

theorem rejoin_eq (h : Scan d text position found) :
    Span.rejoin text position found = text.drop position := by
  induction h with
  | done => rfl
  | next first rest ih =>
    obtain ⟨hfrom, hlt, -⟩ := first.bounds
    rw [Span.rejoin, ih, first.source, List.append_assoc,
      extract_append_drop (Nat.le_of_lt hlt), extract_append_drop hfrom]

theorem laidOut (h : Scan d text 0 found) : Span.LaidOut text found where
  inside s hs := (h.bounds s hs).2
  ordered := h.pairwise
  rejoined := h.rejoin_eq

end Scan

/-- The spans of a text are those that a scan from its start finds, and no other list of spans
is. None is empty or runs out of the text, no two meet, and the gaps and the sources in turn are
the text. -/
theorem spans_leftmost_shortest (d : Delimiter) (text : List Point) :
    (∀ found, Scan d text 0 found ↔ found = spans d text) ∧ Span.LaidOut text (spans d text) := by
  have hscan : Scan d text 0 (spans d text) := scan_ofSegments d [] text
  refine ⟨fun found => ⟨fun h => h.unique hscan, ?_⟩, hscan.laidOut⟩
  rintro rfl
  exact hscan

/-- The second of two equal markers closes a span; a third one that nothing closes opens none. -/
example :
    let percents : Delimiter :=
      ⟨("%%" : Text).toList, ("%%" : Text).toList, by decide, by decide⟩
    (spans percents ("%%x%%%%%" : Text).toList).map (fun s => (s.start, s.stop)) = [(0, 5)] := by
  decide +kernel

end Verdict
