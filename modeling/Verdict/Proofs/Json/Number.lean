import Verdict.Json.Reader
import Verdict.Proofs.Number.Written

/-! Numbers part by part: a sign, a whole part, a fraction and an exponent. Each part is taken as
far as it goes, so a text of a number is read by the parts that it was put together from. -/

namespace Verdict.Json

attribute [local instance] decidableForallMem

/-- A row of plain digits. -/
structure Digits (ds : List Point) : Prop where
  ne_nil : ds ≠ []
  digit : ∀ c ∈ ds, c.isDigit = true

/-- The digits of an integer, without zeros in front of others. -/
structure Whole (ds : List Point) : Prop extends Digits ds where
  zero : ds.head? = some (.char '0') → ds = [.char '0']

/-- A fraction or none, and its digits. -/
inductive Fraction : List Point → List Point → Prop
  | none : Fraction [] []
  | digits {ds : List Point} (h : Digits ds) : Fraction ('.' :: ds) ds

/-- What may stand in front of the digits of an exponent, with true for minus. -/
def signs : List (List Point × Bool) := [([], false), ([.char '+'], false), ([.char '-'], true)]

/-- An exponent or none, and its worth. -/
inductive Exponent : List Point → Int → Prop
  | none : Exponent [] 0
  | digits {mark : Point} {sign ds : List Point} {negative : Bool} (hmark : mark = 'e' ∨ mark = 'E')
      (hsign : (sign, negative) ∈ signs) (h : Digits ds) :
      Exponent (mark :: (sign ++ ds)) (Numeral.applySign negative (Numeral.worth ds))

/-- A text of a number: an integer of so many digits at most, or with a fraction or an exponent
the nearest double. -/
inductive WritesNumber : List Point → Number → Prop
  | int {negative : Bool} {whole : List Point} (hwhole : Whole whole)
      (hlength : whole.length ≤ digitLimit) :
      WritesNumber (Double.signed negative whole)
        (.int (Numeral.applySign negative (Numeral.worth whole)))
  | double {negative : Bool} {whole fraction ds exponent : List Point} {e : Int}
      (hwhole : Whole whole) (hfraction : Fraction fraction ds) (hexponent : Exponent exponent e)
      (hne : fraction ++ exponent ≠ []) :
      WritesNumber (Double.signed negative (whole ++ (fraction ++ exponent)))
        (.double (Decimal.toDouble negative ⟨Numeral.worth (whole ++ ds), e - ds.length⟩))

variable {text rest cs whole fraction exponent ds : List Point} {e : Int}

/-! ### Single parts -/

theorem takeWhole_append (h : Whole whole) (hrest : ∀ c ∈ rest.head?, c.isDigit = false) :
    takeWhole (whole ++ rest) = some (whole, rest) := by
  rw [takeWhole, Numeral.takeDigits_append h.digit hrest]
  cases whole with
  | nil => exact absurd rfl h.ne_nil
  | cons d ds =>
    by_cases hd : d = '0'
    · subst hd
      cases h.zero rfl
      rfl
    · split
      · next heq => cases heq
      · next heq => cases heq; exact absurd rfl hd
      · rfl

theorem exists_of_takeWhole (h : takeWhole cs = some (whole, rest)) :
    Whole whole ∧ cs = whole ++ rest := by
  have hcs : (Numeral.takeDigits cs).1 ++ (Numeral.takeDigits cs).2 = cs :=
    List.takeWhile_append_dropWhile
  have hdigits : ∀ c ∈ (Numeral.takeDigits cs).1, c.isDigit = true :=
    fun c hc => List.mem_takeWhile_imp hc
  rw [takeWhole] at h
  generalize Numeral.takeDigits cs = run at h hcs hdigits
  obtain ⟨taken, left⟩ := run
  split at h
  · cases h
  · next ds _ heq =>
    cases heq
    cases h
    exact ⟨⟨⟨by simp, by simp⟩, fun _ => rfl⟩, hcs.symm⟩
  · next hne hzero =>
    cases h
    refine ⟨⟨⟨fun hnil => hne rest (by rw [hnil]), hdigits⟩, fun hhead => ?_⟩, hcs.symm⟩
    obtain ⟨ds, rfl⟩ := List.head?_eq_some_iff.1 hhead
    exact absurd rfl (hzero ds rest)

theorem takeFraction_append (h : Fraction fraction ds)
    (hrest : ∀ c ∈ rest.head?, c.isDigit = false ∧ c ≠ '.') :
    takeFraction (fraction ++ rest) = (fraction, rest) := by
  cases h with
  | none =>
    rw [List.nil_append]
    unfold takeFraction
    split
    · exact absurd rfl (hrest '.' rfl).2
    · rfl
  | digits h =>
    rw [List.cons_append, takeFraction,
      Numeral.takeDigits_append h.digit fun c hc => (hrest c hc).1]
    exact if_neg h.ne_nil

theorem exists_of_takeFraction (cs : List Point) :
    (∃ ds, Fraction (takeFraction cs).1 ds) ∧ cs = (takeFraction cs).1 ++ (takeFraction cs).2 := by
  unfold takeFraction
  split
  · next rest =>
    dsimp only
    split
    · exact ⟨⟨_, .none⟩, rfl⟩
    · next hne =>
      exact ⟨⟨_, .digits ⟨hne, fun c hc => List.mem_takeWhile_imp hc⟩⟩,
        congrArg (Point.char '.' :: ·) List.takeWhile_append_dropWhile.symm⟩
  · exact ⟨⟨_, .none⟩, rfl⟩

/-- An exponent goes on with neither digits nor a point. -/
theorem Exponent.head (h : Exponent exponent e) :
    ∀ c ∈ exponent.head?, c.isDigit = false ∧ c ≠ '.' := by
  intro c hc
  cases h with
  | none => cases hc
  | digits hmark =>
    cases hc
    rcases hmark with rfl | rfl <;> decide

theorem Fraction.head_append (hfraction : Fraction fraction ds) (hexponent : Exponent exponent e) :
    ∀ c ∈ (fraction ++ exponent).head?, c.isDigit = false := by
  intro c hc
  cases hfraction with
  | none => exact (hexponent.head c hc).1
  | digits => cases hc; rfl

/-- The sign of an exponent as it stands, and the text after it. -/
def takeMark : List Point → List Point × List Point
  | .char '+' :: cs => ([.char '+'], cs)
  | .char '-' :: cs => ([.char '-'], cs)
  | cs => ([], cs)

theorem takeExponent_cons (mark : Point) (cs : List Point) : takeExponent (mark :: cs) =
    if mark = 'e' ∨ mark = 'E' then
      let (sign, digits) := takeMark cs
      let (ds, after) := Numeral.takeDigits digits
      if ds = [] then ([], mark :: cs) else (mark :: (sign ++ ds), after)
    else ([], mark :: cs) := by
  unfold takeExponent takeMark
  rfl

theorem takeMark_append {sign : List Point} {negative : Bool} (hsign : (sign, negative) ∈ signs)
    (hds : ∀ c ∈ ds.head?, c.isDigit = true) :
    takeMark (sign ++ ds) = (sign, ds) ∧ Numeral.takeSign (sign ++ ds) = (negative, ds) := by
  simp only [signs, List.mem_cons, Prod.mk.injEq, List.not_mem_nil, or_false] at hsign
  rcases hsign with ⟨rfl, rfl⟩ | ⟨rfl, rfl⟩ | ⟨rfl, rfl⟩
  · refine ⟨?_, Numeral.takeSign_signed false hds⟩
    rw [List.nil_append]
    unfold takeMark
    split
    · cases hds _ rfl
    · cases hds _ rfl
    · rfl
  · exact ⟨rfl, rfl⟩
  · exact ⟨rfl, rfl⟩

theorem exists_of_takeMark (cs : List Point) : (∃ negative, ((takeMark cs).1, negative) ∈ signs) ∧
    cs = (takeMark cs).1 ++ (takeMark cs).2 := by
  unfold takeMark
  split
  · exact ⟨⟨false, by simp [signs]⟩, rfl⟩
  · exact ⟨⟨true, by simp [signs]⟩, rfl⟩
  · exact ⟨⟨false, by simp [signs]⟩, rfl⟩

theorem takeExponent_of_exponent (h : Exponent exponent e) :
    takeExponent exponent = (exponent, []) := by
  cases h with
  | none => rfl
  | @digits mark sign ds negative hmark hsign h =>
    have hmarked := takeMark_append hsign fun c hc => h.digit c (List.mem_of_mem_head? hc)
    rw [takeExponent_cons, if_pos hmark, hmarked.1]
    dsimp only
    rw [Numeral.takeDigits_of_forall h.digit]
    exact if_neg h.ne_nil

theorem exists_of_takeExponent (cs : List Point) :
    (∃ e, Exponent (takeExponent cs).1 e) ∧ cs = (takeExponent cs).1 ++ (takeExponent cs).2 := by
  cases cs with
  | nil => exact ⟨⟨_, .none⟩, rfl⟩
  | cons mark cs =>
    obtain ⟨⟨negative, hsign⟩, hcs⟩ := exists_of_takeMark cs
    rw [takeExponent_cons]
    split
    · next hmark =>
      generalize takeMark cs = marked at hsign hcs ⊢
      obtain ⟨sign, digits⟩ := marked
      subst hcs
      dsimp only
      split
      · exact ⟨⟨_, .none⟩, rfl⟩
      · next hne =>
        refine ⟨⟨_, .digits hmark hsign ⟨hne, fun c hc => List.mem_takeWhile_imp hc⟩⟩, ?_⟩
        have hdigits : (Numeral.takeDigits digits).1 ++ (Numeral.takeDigits digits).2 = digits :=
          List.takeWhile_append_dropWhile
        rw [List.cons_append, List.append_assoc, hdigits]
    · exact ⟨⟨_, .none⟩, rfl⟩

theorem readExponent_of_exponent (h : Exponent exponent e) :
    Numeral.readExponent exponent = some e := by
  cases h with
  | none => rfl
  | @digits mark sign ds negative hmark hsign h =>
    have hmarked := takeMark_append hsign fun c hc => h.digit c (List.mem_of_mem_head? hc)
    rw [Numeral.readExponent, hmarked.2]
    exact if_pos ⟨hmark, h.ne_nil, List.all_eq_true.2 h.digit⟩

/-! ### Numbers by their parts -/

/-- The rest of a number, behind its sign and its whole part. -/
def takeTail (negative : Bool) (whole rest : List Point) : Option (Number × List Point) :=
  let (fraction, rest) := takeFraction rest
  let (exponent, rest) := takeExponent rest
  if fraction = [] ∧ exponent = [] then
    match Numeral.readInt (Double.signed negative whole) with
    | .ok n => some (.int n, rest)
    | .error _ => none
  else (Numeral.readDouble (Double.signed negative whole ++ fraction ++ exponent)).map
    (.double ·, rest)

theorem takeNumber_signed (negative : Bool) (h : negative = true ∨ ∀ c ∈ cs.head?, c ≠ '-') :
    takeNumber (Double.signed negative cs) =
      (takeWhole cs).bind fun p => takeTail negative p.1 p.2 := by
  cases negative with
  | true => rfl
  | false =>
    rw [Double.signed, if_neg Bool.false_ne_true]
    have hminus : takeMinus cs = ([], cs) := by
      unfold takeMinus
      split
      · exact absurd rfl (h.resolve_left Bool.false_ne_true '-' rfl)
      · rfl
    rw [takeNumber, hminus]
    rfl

theorem exists_eq_signed (cs : List Point) : ∃ negative unsigned,
    cs = Double.signed negative unsigned ∧ (negative = true ∨ ∀ c ∈ unsigned.head?, c ≠ '-') := by
  by_cases h : ∃ rest, cs = .char '-' :: rest
  · obtain ⟨rest, rfl⟩ := h
    exact ⟨true, rest, rfl, .inl rfl⟩
  · refine ⟨false, cs, rfl, .inr fun c hc => ?_⟩
    rintro rfl
    exact h (List.head?_eq_some_iff.1 hc)

theorem Digits.isPlainFigure (h : Digits ds) : ∀ c ∈ ds, IsPlainFigure c :=
  fun c hc => .inl (h.digit c hc)

theorem Fraction.isPlainFigure (h : Fraction fraction ds) : ∀ c ∈ fraction, IsPlainFigure c := by
  cases h with
  | none => simp
  | digits h => exact List.forall_mem_cons.2 ⟨.inr (by simp), h.isPlainFigure⟩

theorem Exponent.isPlainFigure (h : Exponent exponent e) :
    ∀ c ∈ exponent, IsPlainFigure c := by
  cases h with
  | none => simp
  | @digits mark sign ds negative hmark hsign h =>
    have hsigns : ∀ p ∈ signs, ∀ c ∈ p.1, c ∈ (".eE+-" : Text).toList := by decide
    refine List.forall_mem_cons.2 ⟨.inr ?_, List.forall_mem_append.2
      ⟨fun c hc => .inr (hsigns _ hsign c hc), h.isPlainFigure⟩⟩
    rcases hmark with rfl | rfl <;> simp

section Parts

variable (hwhole : Whole whole) (hfraction : Fraction fraction ds) (hexponent : Exponent exponent e)

include hwhole hfraction hexponent

theorem readDecimal_parts : Numeral.readDecimal (whole ++ (fraction ++ exponent)) =
    some ⟨Numeral.worth (whole ++ ds), e - ds.length⟩ := by
  have hpoint : Numeral.takeFraction (fraction ++ exponent) = (ds, exponent) := by
    cases hfraction with
    | none =>
      rcases Numeral.takeFraction_cases exponent with ⟨r, rfl, -⟩ | ⟨-, hnone⟩
      · exact absurd rfl (hexponent.head '.' rfl).2
      · exact hnone
    | digits h => exact Numeral.takeDigits_append h.digit fun c hc => (hexponent.head c hc).1
  exact Numeral.readDecimal_of_parts
    (Numeral.takeDigits_append hwhole.digit (hfraction.head_append hexponent)) hpoint hwhole.ne_nil
    (readExponent_of_exponent hexponent)

theorem isDecimalText_parts (hne : fraction ++ exponent ≠ []) :
    IsDecimalText (whole ++ (fraction ++ exponent)) where
  head c hc := by
    rw [List.head?_append_of_ne_nil _ hwhole.ne_nil] at hc
    exact hwhole.digit c (List.mem_of_mem_head? hc)
  plain := List.forall_mem_append.2 ⟨hwhole.isPlainFigure,
    List.forall_mem_append.2 ⟨hfraction.isPlainFigure, hexponent.isPlainFigure⟩⟩
  marked := by
    obtain ⟨mark, more, hmore⟩ := List.exists_cons_of_ne_nil hne
    exact ⟨mark, by rw [hmore]; simp, hfraction.head_append hexponent mark (by rw [hmore]; rfl)⟩

theorem takeTail_parts (negative : Bool) : takeTail negative whole (fraction ++ exponent) =
    if fraction ++ exponent = [] then
      if whole.length ≤ digitLimit then
        some (.int (Numeral.applySign negative (Numeral.worth whole)), [])
      else none
    else some (.double
      (Decimal.toDouble negative ⟨Numeral.worth (whole ++ ds), e - ds.length⟩), []) := by
  rw [takeTail, takeFraction_append hfraction hexponent.head]
  dsimp only
  rw [takeExponent_of_exponent hexponent]
  dsimp only
  simp only [← List.append_eq_nil_iff]
  split
  · rw [Numeral.readInt_of_digits negative hwhole.ne_nil hwhole.digit]
    by_cases hlength : whole.length ≤ digitLimit
    · rw [if_neg (Nat.not_lt.2 hlength), if_pos hlength]
    · rw [if_pos (Nat.not_le.1 hlength), if_neg hlength]
  · next hne =>
    have hassoc : Double.signed negative whole ++ fraction ++ exponent =
        Double.signed negative (whole ++ (fraction ++ exponent)) := by
      cases negative <;> simp [Double.signed]
    rw [hassoc, Numeral.readDouble_signed (isDecimalText_parts hwhole hfraction hexponent hne)
      (readDecimal_parts hwhole hfraction hexponent)]
    rfl

theorem takeNumber_parts (negative : Bool) :
    takeNumber (Double.signed negative (whole ++ (fraction ++ exponent))) =
      takeTail negative whole (fraction ++ exponent) := by
  have hhead : ∀ c ∈ (whole ++ (fraction ++ exponent)).head?, c ≠ '-' := by
    rw [List.head?_append_of_ne_nil _ hwhole.ne_nil]
    rintro c hc rfl
    cases hwhole.digit '-' (List.mem_of_mem_head? hc)
  rw [takeNumber_signed negative (.inr hhead),
    takeWhole_append hwhole (hfraction.head_append hexponent)]
  rfl

end Parts

/-- What is left behind a number is what is left behind its exponent. -/
theorem rest_of_takeTail {n : Number} {negative : Bool} {after : List Point}
    (h : takeTail negative whole rest = some (n, after)) :
    after = (takeExponent (takeFraction rest).2).2 := by
  unfold takeTail at h
  dsimp only at h
  split at h
  · split at h
    · cases h
      rfl
    · cases h
  · obtain ⟨x, -, hx⟩ := Option.map_eq_some_iff.1 h
    cases hx
    rfl

theorem exists_parts_of_takeTail {n : Number} {negative : Bool}
    (h : takeTail negative whole rest = some (n, [])) : ∃ fraction ds exponent e,
      Fraction fraction ds ∧ Exponent exponent e ∧ rest = fraction ++ exponent := by
  obtain ⟨⟨ds, hfraction⟩, hrest⟩ := exists_of_takeFraction rest
  obtain ⟨⟨e, hexponent⟩, hmore⟩ := exists_of_takeExponent (takeFraction rest).2
  refine ⟨_, _, _, _, hfraction, hexponent, ?_⟩
  rw [← rest_of_takeTail h, List.append_nil] at hmore
  rw [← hmore]
  exact hrest

theorem WritesNumber.isPlainFigure {n : Number} (h : WritesNumber text n) :
    ∀ c ∈ text, IsPlainFigure c := by
  cases h with
  | int hwhole => exact Numeral.isPlainFigure_signed _ hwhole.isPlainFigure
  | double hwhole hfraction hexponent =>
    exact Numeral.isPlainFigure_signed _ (List.forall_mem_append.2 ⟨hwhole.isPlainFigure,
      List.forall_mem_append.2 ⟨hfraction.isPlainFigure, hexponent.isPlainFigure⟩⟩)

theorem readNumber_eq_some_iff_takeNumber {n : Number} :
    readNumber text = some n ↔ takeNumber text = some (n, []) := by
  rw [readNumber]
  split
  · next heq => rw [heq, Option.some.injEq, Option.some.injEq, Prod.mk.injEq, and_iff_left rfl]
  · next hne => exact iff_of_false (Option.some_ne_none n).symm (hne n)

/-- A text reads as a number if it writes that number. -/
theorem readNumber_eq_some_iff {n : Number} : readNumber text = some n ↔ WritesNumber text n := by
  rw [readNumber_eq_some_iff_takeNumber]
  constructor
  · intro h
    -- what is read falls into parts, and the parts say what it is read as
    obtain ⟨negative, unsigned, rfl, hsign⟩ := exists_eq_signed text
    rw [takeNumber_signed negative hsign] at h
    obtain ⟨⟨whole, rest⟩, htake, htail⟩ := Option.bind_eq_some_iff.1 h
    obtain ⟨hwhole, rfl⟩ := exists_of_takeWhole htake
    obtain ⟨fraction, ds, exponent, e, hfraction, hexponent, rfl⟩ := exists_parts_of_takeTail htail
    dsimp only at htail
    rw [takeTail_parts hwhole hfraction hexponent] at htail
    split at htail
    · next hnil =>
      split at htail
      · next hlength =>
        cases htail
        rw [hnil, List.append_nil]
        exact .int hwhole hlength
      · cases htail
    · next hne =>
      cases htail
      exact .double hwhole hfraction hexponent hne
  · intro h
    cases h with
    | @int negative whole hwhole hlength =>
      have hread := takeNumber_parts hwhole .none .none negative
      rw [takeTail_parts hwhole .none .none, List.append_nil, List.append_nil, if_pos rfl,
        if_pos hlength] at hread
      exact hread
    | @double negative whole fraction ds exponent e hwhole hfraction hexponent hne =>
      rw [takeNumber_parts hwhole hfraction hexponent, takeTail_parts hwhole hfraction hexponent,
        if_neg hne]

end Verdict.Json
