import Verdict.Json.Reader

/-! Containers in JSON texts, as far as it takes to see how deep they go. A text is cut into
lexemes, and decoding enters one level more at each opening bracket. Inside of containers it takes
levels for calls as well: one to look up a number without digits, and three to report a fault. -/

namespace Verdict.Json

inductive Bracket where
  | array | object
  deriving DecidableEq

def Bracket.text : Bracket → Text
  | .array => "array"
  | .object => "object"

/-- A piece of a JSON text. -/
inductive Lexeme where
  | opening (b : Bracket)
  | closing (b : Bracket)
  | comma
  | colon
  | string
  /-- A number in digits, a truth value or null. -/
  | plain
  /-- A number without digits. -/
  | named
  /-- A quote that begins no string. -/
  | broken
  /-- Nothing of all these, or the end of the text. -/
  | other
  deriving DecidableEq

/-! ### Lexemes -/

/-- The words of a JSON text. -/
def lexemeWords : List (Text × Lexeme) :=
  ("null", .plain) :: words.map fun (word, v) =>
    (word, match v with | .number _ => .named | _ => .plain)

/-- The word that a text begins with, and the text after it. -/
def takeWord (cs : List Point) : Option (Lexeme × List Point) :=
  (lexemeWords.find? fun (word, _) => word.toList.isPrefixOf cs).map fun (word, l) =>
    (l, cs.drop word.toList.length)

/-- The lexeme that a text begins with, and the text after it. -/
def lexeme? (cs : List Point) : Option (Lexeme × List Point) :=
  match cs with
  | .char '[' :: rest => some (.opening .array, rest)
  | .char '{' :: rest => some (.opening .object, rest)
  | .char ']' :: rest => some (.closing .array, rest)
  | .char '}' :: rest => some (.closing .object, rest)
  | .char ',' :: rest => some (.comma, rest)
  | .char ':' :: rest => some (.colon, rest)
  | .char '"' :: rest => (readString rest).map fun (_, rest) => (.string, rest)
  | _ =>
    match takeWord cs with
    | some r => some r
    | none => (takeNumber cs).map fun (_, rest) => (.plain, rest)

section Lengths

variable {cs s whole rest : List Point}

theorem length_lt_of_readString (h : readString cs = some (s, rest)) :
    rest.length < cs.length := by
  fun_induction readString cs generalizing s rest with
  | case1 => cases h
  | case2 => cases h; exact Nat.lt_succ_self _
  | case3 a b c d e f g h' more ihpair ihunit =>
    obtain ⟨high, -, h⟩ := Option.bind_eq_some_iff.1 h
    split at h
    · split at h
      · obtain ⟨⟨cs, after⟩, hread, hpure⟩ := Option.bind_eq_some_iff.1 h
        cases hpure
        have := ihpair hread
        simp only [List.length_cons]
        omega
      · obtain ⟨⟨cs, after⟩, hread, hpure⟩ := Option.bind_eq_some_iff.1 h
        cases hpure
        have := ihunit hread
        simp only [List.length_cons] at this ⊢
        omega
    · cases h
  | case4 a b c d more _ ih | case5 c more _ _ ih =>
    obtain ⟨n, -, h⟩ := Option.bind_eq_some_iff.1 h
    obtain ⟨⟨cs, after⟩, hread, hpure⟩ := Option.bind_eq_some_iff.1 h
    cases hpure
    have := ih hread
    simp only [List.length_cons]
    omega
  | case6 => cases h
  | case7 c more _ _ _ _ _ ih =>
    obtain ⟨⟨cs, after⟩, hread, hpure⟩ := Option.bind_eq_some_iff.1 h
    cases hpure
    exact Nat.lt_succ_of_lt (ih hread)

theorem length_takeDigits (cs : List Point) :
    (Numeral.takeDigits cs).1.length + (Numeral.takeDigits cs).2.length = cs.length := by
  rw [← List.length_append, Numeral.takeDigits, List.takeWhile_append_dropWhile]

theorem length_lt_of_takeWhole (h : takeWhole cs = some (whole, rest)) :
    rest.length < cs.length := by
  have hlength := length_takeDigits cs
  rw [takeWhole] at h
  split at h
  · cases h
  · next heq =>
    cases h
    simp only [heq, List.length_cons, List.length_append] at hlength ⊢
    omega
  · next hne _ =>
    have hsome := Option.some.inj h
    have hpos : whole.length ≠ 0 := fun hnil =>
      hne rest (by rw [hsome, List.length_eq_zero_iff.1 hnil])
    rw [hsome] at hlength
    dsimp only at hlength
    omega

theorem length_takeFraction_le (cs : List Point) : (takeFraction cs).2.length ≤ cs.length := by
  unfold takeFraction
  split
  · next rest =>
    have hlength := length_takeDigits rest
    dsimp only
    split
    · exact Nat.le_refl _
    · simp only [List.length_cons]
      omega
  · exact Nat.le_refl _

theorem length_takeExponent_le (cs : List Point) : (takeExponent cs).2.length ≤ cs.length := by
  unfold takeExponent
  split
  · next e rest =>
    split
    · split
      next sign digits heq =>
        have hlength := length_takeDigits digits
        have hdigits : digits.length ≤ rest.length := by
          split at heq <;> cases heq <;> simp
        split
        next ds after hds =>
          rw [hds] at hlength
          split
          · exact Nat.le_refl _
          · simp only [List.length_cons] at hlength ⊢
            omega
    · exact Nat.le_refl _
  · exact Nat.le_refl _

theorem length_takeMinus_le (cs : List Point) : (takeMinus cs).2.length ≤ cs.length := by
  unfold takeMinus
  split <;> simp

theorem length_lt_of_takeNumber {n : Number} (h : takeNumber cs = some (n, rest)) :
    rest.length < cs.length := by
  have hunsigned := length_takeMinus_le cs
  obtain ⟨⟨whole, afterWhole⟩, hwhole, h⟩ := Option.bind_eq_some_iff.1 h
  have hlength : afterWhole.length < (takeMinus cs).2.length := length_lt_of_takeWhole hwhole
  have hfraction := length_takeFraction_le afterWhole
  have hexponent := length_takeExponent_le (takeFraction afterWhole).2
  have hrest : rest = (takeExponent (takeFraction afterWhole).2).2 := by
    dsimp only at h
    split at h
    · split at h
      · cases h
        rfl
      · cases h
    · obtain ⟨x, -, hx⟩ := Option.map_eq_some_iff.1 h
      cases hx
      rfl
  rw [hrest]
  omega

theorem length_lt_of_takeWord {l : Lexeme} (h : takeWord cs = some (l, rest)) :
    rest.length < cs.length := by
  obtain ⟨⟨word, l'⟩, hword, hmap⟩ := Option.map_eq_some_iff.1 h
  cases hmap
  have hprefix : word.toList <+: cs := List.isPrefixOf_iff_prefix.1 (List.find?_some hword :)
  have hpos : ∀ p ∈ lexemeWords, 0 < p.1.toList.length := by decide
  have hword : 0 < word.toList.length := hpos _ (List.mem_of_find?_eq_some hword)
  have := hprefix.length_le
  rw [List.length_drop]
  omega

theorem length_lt_of_lexeme? {l : Lexeme} (h : lexeme? cs = some (l, rest)) :
    rest.length < cs.length := by
  unfold lexeme? at h
  split at h
  case h_7 =>
    obtain ⟨⟨s, after⟩, hread, hmap⟩ := Option.map_eq_some_iff.1 h
    cases hmap
    exact Nat.lt_succ_of_lt (length_lt_of_readString hread)
  case h_8 =>
    split at h
    · next hword =>
      cases h
      exact length_lt_of_takeWord hword
    · obtain ⟨⟨n, after⟩, hread, hmap⟩ := Option.map_eq_some_iff.1 h
      cases hmap
      exact length_lt_of_takeNumber hread
  all_goals
    cases h
    exact Nat.lt_succ_self _

end Lengths

/-- The lexemes of a text up to the first place where none begins, and what is there. -/
def lexemes (cs : List Point) : List Lexeme :=
  match _h : lexeme? (cs.dropWhile isBlank) with
  | some (l, rest) => l :: lexemes rest
  | none => [if (cs.dropWhile isBlank).head? = some (.char '"') then .broken else .other]
termination_by cs.length
decreasing_by
  have := length_lt_of_lexeme? _h
  have := (List.dropWhile_suffix (l := cs) isBlank).length_le
  omega

/-! ### Places -/

/-- What has to come next. -/
inductive Awaited where
  | value
  /-- A value, or the end of an array that nothing stands in yet. -/
  | item
  /-- The name of a member. -/
  | name
  /-- The name of a member, or the end of an object that nothing stands in yet. -/
  | member
  | colon
  /-- A comma, or the end of the container. -/
  | next
  deriving DecidableEq

/-- A place between two lexemes, with the containers around it from the inside out. -/
structure Place where
  opened : List Bracket
  awaits : Awaited
  deriving DecidableEq

namespace Place

/-- The place at which a text begins. -/
def start : Place := ⟨[], .value⟩

/-- The place behind the end of the innermost container, if it is of this kind. -/
def close (p : Place) (b : Bracket) : Option Place :=
  if p.opened.head? = some b then some ⟨p.opened.tail, .next⟩ else none

/-- The place after a lexeme, if the lexeme may stand here. -/
def step (p : Place) (l : Lexeme) : Option Place :=
  match p.awaits, l with
  | .value, .opening b | .item, .opening b =>
    some ⟨b :: p.opened, match b with | .array => .item | .object => .member⟩
  | .value, .string | .value, .plain | .value, .named | .item, .string | .item, .plain
  | .item, .named => some { p with awaits := .next }
  | .name, .string | .member, .string => some { p with awaits := .colon }
  | .colon, .colon => some { p with awaits := .value }
  | .item, .closing b | .member, .closing b | .next, .closing b => p.close b
  | .next, .comma =>
    p.opened.head?.map fun b =>
      { p with awaits := match b with | .array => .value | .object => .name }
  | _, _ => none

/-- Whether a lexeme that may not stand here is reported from this place. A missing value is
reported from the outside. -/
def reports (p : Place) (l : Lexeme) : Bool :=
  match p.awaits with
  | .value | .item => l = .broken
  | .name | .member | .colon | .next => true

/-- Whether so many levels are too few for a lexeme at this place. Outside of all containers they
are enough for every call. -/
def overflows (levels : Nat) (p : Place) (l : Lexeme) : Bool :=
  match p.step l with
  | some q => q.opened ≠ [] && levels < q.opened.length + if l = .named then 1 else 0
  | none => p.opened ≠ [] && p.reports l && levels < p.opened.length + 3

end Place

/-- What decoding is about when it has no level left. -/
inductive Overflow where
  | container (b : Bracket)
  | call
  /-- The inside of a call. -/
  | body
  deriving DecidableEq

def Overflow.text : Overflow → Text
  | .container b => " while decoding a JSON " ++ b.text ++ " from a unicode string"
  | .call => " while calling a Python object"
  | .body => ""

/-- What a lexeme makes decoding do where it has no level left. -/
def Place.overflow (levels : Nat) (p : Place) (l : Lexeme) : Overflow :=
  match l, p.step l with
  | .opening b, some _ => .container b
  | _, _ => if levels = p.opened.length + 1 then .body else .call

/-- The first overflow of so many levels, if it comes to that. -/
def overflow? (levels : Nat) (p : Place) : List Lexeme → Option Overflow
  | [] => none
  | l :: ls =>
    if p.overflows levels l then some (p.overflow levels l)
    else (p.step l).bind fun q => overflow? levels q ls

end Verdict.Json
