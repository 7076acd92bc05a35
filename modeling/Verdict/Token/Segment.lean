import Verdict.Fault

/-! Texts cut at delimiters. A span runs from an opening marker to the nearest closing
marker after it; `segments` takes a text apart into spans and the plain text between
them, and `join_segments` says that nothing is lost. -/

namespace Verdict

/-- The markers around a span. Neither is empty. -/
structure Delimiter where
  opening : List Point
  closing : List Point
  opening_ne : opening ≠ []
  closing_ne : closing ≠ []

namespace Delimiter

/-- Two pairs of braces. -/
def default : Delimiter := ⟨[.char '{', .char '{'], [.char '}', .char '}'], by decide, by decide⟩

def ofTexts (opening closing : Text) : Except Fault Delimiter :=
  if h : opening.toList ≠ [] ∧ closing.toList ≠ [] then
    .ok ⟨opening.toList, closing.toList, h.1, h.2⟩
  else .error .emptyDelimiter

end Delimiter

inductive Segment where
  | plain (text : List Point)
  | span (body : List Point)
  deriving DecidableEq

/-- The text before the first occurrence of a marker and the text after it. -/
def cut (marker : List Point) : List Point → Option (List Point × List Point)
  | [] => if marker.isPrefixOf [] then some ([], []) else none
  | c :: cs =>
    if marker.isPrefixOf (c :: cs) then some ([], (c :: cs).drop marker.length)
    else (cut marker cs).map fun (before, after) => (c :: before, after)

theorem eq_append_of_cut {marker text before after : List Point}
    (h : cut marker text = some (before, after)) : text = before ++ marker ++ after := by
  induction text generalizing before after with
  | nil =>
    cases marker with
    | nil => simp_all [cut]
    | cons m ms => simp [cut] at h
  | cons c cs ih =>
    rw [cut] at h
    split at h
    · next hp =>
      obtain ⟨rest, hr⟩ := List.isPrefixOf_iff_prefix.1 hp
      simp only [Option.some.injEq, Prod.mk.injEq] at h
      rw [← h.1, ← h.2, ← hr]
      simp
    · obtain ⟨⟨b, a⟩, hc, he⟩ := Option.map_eq_some_iff.1 h
      simp only [Prod.mk.injEq] at he
      rw [← he.1, ← he.2, ih hc]
      simp

/-- A marker whose first character stands nowhere before it is found where it stands. -/
theorem cut_append_of_not_mem {m : Point} {ms before : List Point} (after : List Point)
    (h : m ∉ before) : cut (m :: ms) (before ++ (m :: ms ++ after)) = some (before, after) := by
  induction before with
  | nil =>
    have hp : (m :: ms).isPrefixOf (m :: (ms ++ after)) = true :=
      List.isPrefixOf_iff_prefix.2 ⟨after, rfl⟩
    simp [cut, hp]
  | cons c cs ih =>
    rw [List.mem_cons, not_or] at h
    have hp : (m :: ms).isPrefixOf (c :: (cs ++ (m :: ms ++ after))) = false := by
      simp [List.isPrefixOf, h.1]
    rw [List.cons_append, cut, hp, ih h.2]
    rfl

namespace Segment

/-- The characters of a segment in the text it was cut from. -/
def source (d : Delimiter) : Segment → List Point
  | .plain text => text
  | .span body => d.opening ++ body ++ d.closing

end Segment

/-- Plain text and spans in turn. An opening marker that nothing closes is plain text. -/
def segments (d : Delimiter) (text : List Point) : List Segment :=
  match _ho : cut d.opening text with
  | none => [.plain text]
  | some (before, rest) =>
    match _hc : cut d.closing rest with
    | none => [.plain text]
    | some (body, after) => .plain before :: .span body :: segments d after
termination_by text.length
decreasing_by
  have h1 := congrArg List.length (eq_append_of_cut _ho)
  have h2 := congrArg List.length (eq_append_of_cut _hc)
  have h3 := List.length_pos_iff.2 d.opening_ne
  simp only [List.length_append] at h1 h2
  omega

theorem segments_of_cut {d : Delimiter} {text before rest body after : List Point}
    (ho : cut d.opening text = some (before, rest)) (hc : cut d.closing rest = some (body, after)) :
    segments d text = .plain before :: .span body :: segments d after := by
  rw [segments]
  split
  · next h => simp [ho] at h
  · next h =>
    obtain ⟨rfl, rfl⟩ := Prod.mk.inj (Option.some.inj (ho.symm.trans h))
    split
    · next h' => simp [hc] at h'
    · next h' =>
      obtain ⟨rfl, rfl⟩ := Prod.mk.inj (Option.some.inj (hc.symm.trans h'))
      rfl

theorem segments_of_cut_eq_none {d : Delimiter} {text : List Point}
    (h : cut d.opening text = none) :
    segments d text = [.plain text] := by
  rw [segments]
  split
  · rfl
  · next h' => simp [h] at h'

theorem join_segments (d : Delimiter) (text : List Point) :
    (segments d text).flatMap (Segment.source d) = text := by
  fun_induction segments d text with
  | case1 => simp [Segment.source]
  | case2 => simp [Segment.source]
  | case3 text before rest ho body after hc ih =>
    rw [List.flatMap_cons, List.flatMap_cons, ih]
    conv => rhs; rw [eq_append_of_cut ho, eq_append_of_cut hc]
    simp [Segment.source]

end Verdict
