/-! Texts as rows of code points. Half of a surrogate pair is a point of its own: escapes can
name it, but no character is one. -/

namespace Verdict

/-- A code point of a text. -/
inductive Point where
  | char (c : Char)
  | surrogate (n : Fin 0x800)
  deriving DecidableEq

namespace Point

instance : Coe Char Point := ⟨char⟩

def toNat : Point → Nat
  | char c => c.toNat
  | surrogate n => 0xd800 + n

/-- The point with a number; what is past the last one gives the first. -/
def ofNat (n : Nat) : Point :=
  if h : 0xd800 ≤ n ∧ n < 0xe000 then surrogate ⟨n - 0xd800, by omega⟩ else char (Char.ofNat n)

@[simp] theorem toNat_char (c : Char) : (char c).toNat = c.toNat := rfl

theorem toNat_lt (p : Point) : p.toNat < 0x110000 := by
  cases p with
  | char c =>
    have hvalid : c.toNat < 0xd800 ∨ 0xdfff < c.toNat ∧ c.toNat < 0x110000 := c.valid
    rw [toNat]
    omega
  | surrogate n =>
    rw [toNat]
    omega

@[simp] theorem ofNat_toNat (p : Point) : ofNat p.toNat = p := by
  cases p with
  | char c =>
    have hvalid : c.toNat < 0xd800 ∨ 0xdfff < c.toNat ∧ c.toNat < 0x110000 := c.valid
    rw [toNat, ofNat, dif_neg (by omega), Char.ofNat_toNat]
  | surrogate n =>
    have hrange : 0xd800 ≤ 0xd800 + n.val ∧ 0xd800 + n.val < 0xe000 := by omega
    simp [toNat, ofNat, hrange]

theorem toNat_ofNat {n : Nat} (h : n < 0x110000) : (ofNat n).toNat = n := by
  rw [ofNat]
  split
  · next hrange => exact Nat.add_sub_cancel' hrange.1
  · have hvalid : n.isValidChar := by
      rw [Nat.isValidChar]
      omega
    rw [toNat, Char.ofNat, dif_pos hvalid]
    rfl

/-- Only the first point has several numbers. -/
theorem toNat_of_ofNat_eq {n : Nat} {p : Point} (h : ofNat n = p) (hp : p.toNat ≠ 0) :
    p.toNat = n := by
  by_cases hn : n < 0x110000
  · rw [← h, toNat_ofNat hn]
  · have hinvalid : ¬ n.isValidChar := by
      rw [Nat.isValidChar]
      omega
    rw [← h, ofNat, dif_neg (by omega), toNat, Char.ofNat, dif_neg hinvalid] at hp
    exact absurd rfl hp

theorem toNat_inj {p q : Point} : p.toNat = q.toNat ↔ p = q :=
  ⟨fun h => by rw [← ofNat_toNat p, h, ofNat_toNat], congrArg toNat⟩

instance : LE Point := ⟨fun p q => p.toNat ≤ q.toNat⟩

instance (p q : Point) : Decidable (p ≤ q) := Nat.decLe p.toNat q.toNat

theorem le_def {p q : Point} : p ≤ q ↔ p.toNat ≤ q.toNat := Iff.rfl

/-- Whether a point is one of the ten plain digits. -/
def isDigit (p : Point) : Bool := '0' ≤ p && p ≤ '9'

@[simp] theorem isDigit_char (c : Char) : (char c).isDigit = c.isDigit := rfl

theorem isDigit_iff_toNat {p : Point} : p.isDigit = true ↔ 48 ≤ p.toNat ∧ p.toNat ≤ 57 := by
  simp [isDigit, le_def]

/-- The character at a point, if there is one. -/
def char? : Point → Option Char
  | char c => some c
  | surrogate _ => none

def isUpper (p : Point) : Bool := p.char?.any Char.isUpper

def isAlpha (p : Point) : Bool := p.char?.any Char.isAlpha

def isAlphanum (p : Point) : Bool := p.char?.any Char.isAlphanum

/-- The small form of a plain capital. -/
def toLower : Point → Point
  | char c => c.toLower
  | surrogate n => surrogate n

@[simp] theorem toLower_char (c : Char) : (char c).toLower = char c.toLower := rfl

/-- The capital form of a plain small letter. -/
def toUpper : Point → Point
  | char c => c.toUpper
  | surrogate n => surrogate n

end Point

/-- A text is its row of points. -/
@[ext] structure Text where
  ofList ::
  toList : List Point
  deriving DecidableEq

namespace Text

def ofString (s : String) : Text := ofList (s.toList.map .char)

instance : Coe String Text := ⟨ofString⟩

instance : Inhabited Text := ⟨""⟩

instance : Append Text := ⟨fun s t => ofList (s.toList ++ t.toList)⟩

/-- By the first point in which two texts differ. -/
instance : LT Text :=
  ⟨fun s t => List.Lex (· < ·) (s.toList.map Point.toNat) (t.toList.map Point.toNat)⟩

instance : LE Text := ⟨fun s t => ¬ t < s⟩

instance (s t : Text) : Decidable (s < t) := List.decidableLex (· < ·) _ _

instance (s t : Text) : Decidable (s ≤ t) := inferInstanceAs (Decidable (¬ t < s))

def singleton (p : Point) : Text := ofList [p]

/-- Texts one after another. -/
def join (ts : List Text) : Text := ofList (ts.flatMap toList)

/-- Texts one after another, with another text between each two. -/
def intercalate (separator : Text) (ts : List Text) : Text :=
  ofList (separator.toList.intercalate (ts.map toList))

/-- The text as a row of characters, if every point is one. -/
def toString? (t : Text) : Option String := (t.toList.mapM Point.char?).map .ofList

/-- The digits of a number in a base, the first letters standing for those past nine. -/
def toDigits (base n : Nat) : List Point := (Nat.toDigits base n).map .char

theorem toDigits_ne_nil {base n : Nat} : toDigits base n ≠ [] := by
  simp [toDigits]

theorem toDigits_eq_if {base n : Nat} (h : 1 < base) : toDigits base n =
    if n < base then [.char n.digitChar]
    else toDigits base (n / base) ++ [.char (n % base).digitChar] := by
  rw [toDigits, toDigits, Nat.toDigits_eq_if h]
  split <;> simp

theorem isDigit_of_mem_toDigits {n : Nat} {p : Point} (h : p ∈ toDigits 10 n) :
    p.isDigit = true := by
  obtain ⟨c, hc, rfl⟩ := List.mem_map.1 h
  exact Nat.isDigit_of_mem_toDigits (by decide) (by decide) hc

section Lemmas

variable {s t u : Text}

theorem toList_inj : s.toList = t.toList ↔ s = t := Text.ext_iff.symm

theorem toList_ofList {cs : List Point} : (ofList cs).toList = cs := rfl

theorem ofList_toList : ofList t.toList = t := rfl

theorem ofList_eq {cs : List Point} : ofList cs = t ↔ cs = t.toList :=
  ⟨congrArg toList, congrArg ofList⟩

@[simp] theorem toList_ofString (s : String) : (ofString s).toList = s.toList.map .char := rfl

@[simp] theorem ofString_inj {s t : String} : ofString s = ofString t ↔ s = t := by
  rw [ofString, ofString, ofList.injEq, List.map_inj_right fun _ _ => Point.char.inj,
    String.toList_inj]

@[simp] theorem toList_append : (s ++ t).toList = s.toList ++ t.toList := rfl

@[simp] theorem empty_append : "" ++ t = t := rfl

@[simp] theorem append_empty : t ++ "" = t := toList_inj.1 (List.append_nil _)

theorem append_assoc : s ++ t ++ u = s ++ (t ++ u) := toList_inj.1 (List.append_assoc ..)

@[simp] theorem join_nil : join [] = "" := rfl

theorem join_cons {ts : List Text} : join (t :: ts) = t ++ join ts := rfl

theorem toList_intercalate {ts : List Text} :
    (intercalate s ts).toList = s.toList.intercalate (ts.map toList) := rfl

theorem map_toNat_inj : s.toList.map Point.toNat = t.toList.map Point.toNat ↔ s = t := by
  rw [List.map_inj_right fun _ _ => Point.toNat_inj.1, toList_inj]

instance : Std.IsLinearOrder Text where
  le_refl s := List.le_refl (s.toList.map Point.toNat)
  le_trans _ _ _ hst htu := List.le_trans hst htu
  le_antisymm _ _ hst hts := map_toNat_inj.1 (List.le_antisymm hst hts)
  le_total s t := List.le_total (s.toList.map Point.toNat) (t.toList.map Point.toNat)

instance : Std.LawfulOrderLT Text where
  lt_iff _ _ := ⟨fun h => ⟨List.lt_asymm h, not_not_intro h⟩, fun h => Decidable.not_not.1 h.2⟩

end Lemmas

end Text

end Verdict
