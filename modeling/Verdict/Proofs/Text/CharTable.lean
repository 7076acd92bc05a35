import Verdict.Text.Blank
import Verdict.Text.Digit
import Verdict.Text.Fold
import Verdict.Text.Lower

/-! Tables that map characters. Both tables here put the plain capitals in lower case, leave blanks
and digits alone, and take only a few other characters to plain ones. -/

namespace Verdict.Text

/-! ### Rows -/

section Table

variable {shifts : List Shift} {expansions : List (Nat × List Nat)} {c d : Point}

/-- What a table makes of a character: what it is expanded to, what its row says, or itself. -/
theorem remap_cases (shifts : List Shift) (expansions : List (Nat × List Nat)) (c : Point) :
    (∃ e ∈ expansions, e.1 = c.toNat ∧ remap shifts expansions c = e.2.map Point.ofNat) ∨
    (∃ s ∈ shifts, s.first ≤ c.toNat ∧ c.toNat ≤ s.last ∧
      remap shifts expansions c = [Point.ofNat (s.apply c.toNat)]) ∨
    (∀ s ∈ shifts, s.covers c.toNat = false) ∧ remap shifts expansions c = [c] := by
  rw [remap]
  split
  · next cs hcs =>
    obtain ⟨before, after, rfl, -⟩ := List.lookup_eq_some_iff.1 hcs
    exact .inl ⟨(c.toNat, cs), by simp, rfl, rfl⟩
  · split
    · next s hs =>
      have hcovers := List.find?_some hs
      simp only [Shift.covers, Bool.and_eq_true, decide_eq_true_eq] at hcovers
      exact .inr (.inl ⟨s, List.mem_of_find?_eq_some hs, hcovers.1.1, hcovers.1.2, rfl⟩)
    · next hnone =>
      exact .inr (.inr ⟨fun s hs => by simpa using List.find?_eq_none.1 hnone s hs, rfl⟩)

/-- Whether a row of code points lies apart from a block of them. -/
def Apart (first last : Int) (block : Nat × Nat) : Prop :=
  last < block.1 ∨ block.2 < first

instance (first last : Int) (block : Nat × Nat) : Decidable (Apart first last block) :=
  inferInstanceAs (Decidable (_ ∨ _))

/-- A table that takes nothing out of a block of code points and nothing into it. -/
structure Spares (shifts : List Shift) (expansions : List (Nat × List Nat))
    (block : Nat × Nat) : Prop where
  rows : ∀ s ∈ shifts, Apart s.first s.last block ∧
    Apart (s.first + s.distance) (s.last + s.distance) block
  entries : ∀ e ∈ expansions, Apart e.1 e.1 block ∧ ∀ n ∈ e.2, Apart n n block

/-- A character in a block that a table spares is left alone, and so is one taken to such a
character. -/
theorem remap_of_spares {block : Nat × Nat} (h : Spares shifts expansions block)
    (hpos : 0 < block.1) (hd : d = c ∨ d ∈ remap shifts expansions c)
    (hblock : block.1 ≤ d.toNat ∧ d.toNat ≤ block.2) : remap shifts expansions c = [c] := by
  have hne : d.toNat ≠ 0 := by omega
  rcases remap_cases shifts expansions c with ⟨e, he, hc, hremap⟩ | ⟨s, hs, hfirst, hlast, hremap⟩ |
    ⟨-, hremap⟩
  · obtain ⟨hkey, himages⟩ := h.entries e he
    rcases hd with rfl | hd
    · exact absurd hkey (by unfold Apart; omega)
    · rw [hremap] at hd
      obtain ⟨n, hn, hnd⟩ := List.mem_map.1 hd
      have hdn := Point.toNat_of_ofNat_eq hnd hne
      exact absurd (himages n hn) (by unfold Apart; omega)
  · obtain ⟨hsource, himage⟩ := h.rows s hs
    rcases hd with rfl | hd
    · exact absurd hsource (by unfold Apart; omega)
    · rw [hremap, List.mem_singleton] at hd
      have hdn := Point.toNat_of_ofNat_eq hd.symm hne
      rw [Shift.apply] at hdn
      exact absurd himage (by unfold Apart; omega)
  · exact hremap

/-- A table that takes no characters but those of a list to plain ones, the plain ones apart. -/
structure PlainFrom (shifts : List Shift) (expansions : List (Nat × List Nat))
    (sources : List Nat) : Prop where
  rows : ∀ s ∈ shifts, s.last < 128 ∨ (s.first = s.last ∧ s.first ∈ sources) ∨
    128 ≤ s.first + s.distance ∧ s.last + s.distance < 0x110000
  entries : ∀ e ∈ expansions, e.1 ∈ sources ∨ ∀ n ∈ e.2, 128 ≤ (Point.ofNat n).toNat
  images : ∀ e ∈ expansions, e.2 ≠ []

namespace PlainFrom

variable {sources : List Nat} (h : PlainFrom shifts expansions sources)

include h

theorem plain_or_mem (hd : d ∈ remap shifts expansions c) (hplain : d.toNat < 128) :
    c.toNat < 128 ∨ c.toNat ∈ sources := by
  rcases remap_cases shifts expansions c with ⟨e, he, hc, hremap⟩ | ⟨s, hs, hfirst, hlast, hremap⟩ |
    ⟨-, hremap⟩
  · rcases h.entries e he with hsource | himages
    · rw [hc] at hsource
      exact .inr hsource
    · rw [hremap] at hd
      obtain ⟨n, hn, rfl⟩ := List.mem_map.1 hd
      exact absurd hplain (Nat.not_lt.2 (himages n hn))
  · rcases h.rows s hs with hlt | ⟨hsingle, hsource⟩ | ⟨himage, hvalid⟩
    · exact .inl (by omega)
    · have hc : c.toNat = s.first := by omega
      exact .inr (hc ▸ hsource)
    · rw [hremap, List.mem_singleton] at hd
      have happly : s.apply c.toNat < 0x110000 := by
        rw [Shift.apply]
        omega
      have hdn : d.toNat = s.apply c.toNat := by
        rw [hd, Point.toNat_ofNat happly]
      rw [Shift.apply] at hdn
      omega
  · rw [hremap, List.mem_singleton] at hd
    subst hd
    exact .inl hplain

theorem remap_ne_nil (c : Point) : remap shifts expansions c ≠ [] := by
  rcases remap_cases shifts expansions c with ⟨e, he, -, hremap⟩ | ⟨s, -, -, -, hremap⟩ |
    ⟨-, hremap⟩
  · rw [hremap]
    simpa using h.images e he
  · simp [hremap]
  · simp [hremap]

/-- What is mapped to a plain word is plain, unless some other character in it stands for a part
of the word. -/
theorem plain_of_flatMap_eq {cs word : List Point} (hword : ∀ d ∈ word, d.toNat < 128)
    (hcs : cs.flatMap (remap shifts expansions) = word)
    (hsources : ∀ n ∈ sources, remap shifts expansions (Point.ofNat n) <:+: word →
      Point.ofNat n ∉ cs) :
    ∀ c ∈ cs, c.toNat < 128 := by
  intro c hc
  have hpart : remap shifts expansions c <:+: word := by
    obtain ⟨before, after, rfl⟩ := List.append_of_mem hc
    rw [← hcs, List.flatMap_append, List.flatMap_cons]
    exact ⟨_, _, (List.append_assoc ..).trans rfl⟩
  obtain ⟨d, ds, hremap⟩ := List.exists_cons_of_ne_nil (h.remap_ne_nil c)
  have hd : d ∈ remap shifts expansions c := hremap ▸ List.mem_cons_self
  refine (h.plain_or_mem hd (hword d (hpart.subset hd))).resolve_right fun hsource => ?_
  refine hsources _ hsource ?_ ?_
  · rw [Point.ofNat_toNat]
    exact hpart
  · rw [Point.ofNat_toNat]
    exact hc

end PlainFrom

end Table

/-! ### The two tables -/

/-- Stretches of code points with all blanks and digits in them, and no letters of two cases. -/
def spared : List (Nat × Nat) := [
  (9, 57), (133, 160), (1632, 4249), (5760, 7257), (8192, 8287), (12288, 42537), (43216, 43609),
  (44016, 44025), (65296, 65305), (66720, 66729), (68912, 71481), (71904, 93017), (120782, 123641),
  (125264, 130041)]

theorem spares_fold : ∀ block ∈ spared, Spares foldShifts foldExpansions block := by
  have hrows : ∀ block ∈ spared, ∀ s ∈ foldShifts, Apart s.first s.last block ∧
      Apart (s.first + s.distance) (s.last + s.distance) block := by decide +kernel
  have hentries : ∀ block ∈ spared, ∀ e ∈ foldExpansions, Apart e.1 e.1 block ∧
      ∀ n ∈ e.2, Apart n n block := by decide +kernel
  exact fun block hblock => ⟨hrows block hblock, hentries block hblock⟩

/-- The characters that are not plain and fold to something plain, in whole or in part: the sharp
s, the long s, the kelvin sign, a few letters with marks, and the Latin ligatures. -/
def foldSources : List Nat := [
  223, 304, 329, 383, 496, 7830, 7831, 7832, 7833, 7834, 7838, 8490, 64256, 64257, 64258, 64259,
  64260, 64261, 64262]

theorem plainFrom_fold : PlainFrom foldShifts foldExpansions foldSources where
  rows := by decide +kernel
  entries := by decide +kernel
  images := by decide +kernel

/-- The capital i with a dot and the kelvin sign. -/
def lowerSources : List Nat := [304, 8490]

theorem plainFrom_lower : PlainFrom lowerShifts lowerExpansions lowerSources where
  rows := by decide +kernel
  entries := by decide +kernel
  images := by decide +kernel

/-- A table whose first row has the plain capitals, and all else in it no plain characters. -/
structure LowersPlain (shifts : List Shift) (expansions : List (Nat × List Nat)) : Prop where
  capitals : ⟨65, 90, 1, 32⟩ ∈ shifts
  rows : ∀ s ∈ shifts, (s.first = 65 ∧ s.last = 90 ∧ s.distance = 32) ∨ 128 ≤ s.first
  entries : ∀ e ∈ expansions, 128 ≤ e.1

theorem lowersPlain_fold : LowersPlain foldShifts foldExpansions where
  capitals := .head _
  rows := by decide +kernel
  entries := by decide +kernel

theorem lowersPlain_lower : LowersPlain lowerShifts lowerExpansions where
  capitals := .head _
  rows := by decide +kernel
  entries := by decide +kernel

theorem toLower_of_plain {c : Point} (hc : c.toNat < 128) :
    c.toLower = if 65 ≤ c.toNat ∧ c.toNat ≤ 90 then Point.ofNat (c.toNat + 32) else c := by
  have htable : ∀ n < 128, (Point.ofNat n).toLower =
      if 65 ≤ n ∧ n ≤ 90 then Point.ofNat (n + 32) else Point.ofNat n := by decide +kernel
  have h := htable c.toNat hc
  rwa [Point.ofNat_toNat] at h

/-- A plain character is put in lower case. -/
theorem LowersPlain.remap_of_plain {shifts : List Shift} {expansions : List (Nat × List Nat)}
    (h : LowersPlain shifts expansions) {c : Point} (hc : c.toNat < 128) :
    remap shifts expansions c = [c.toLower] := by
  rw [toLower_of_plain hc]
  rcases remap_cases shifts expansions c with ⟨e, he, hkey, -⟩ | ⟨s, hs, hfirst, hlast, hremap⟩ |
    ⟨hnone, hremap⟩
  · have hlarge := h.entries e he
    omega
  · obtain ⟨hs65, hs90, hs32⟩ := (h.rows s hs).resolve_right (by omega)
    have happly : s.apply c.toNat = c.toNat + 32 := by
      rw [Shift.apply]
      omega
    rw [hremap, happly, if_pos (by omega)]
  · have hsmall : ¬ (65 ≤ c.toNat ∧ c.toNat ≤ 90) := by
      have hcovers := hnone _ h.capitals
      simp [Shift.covers, Nat.mod_one] at hcovers
      omega
    rw [hremap, if_neg hsmall]

end Verdict.Text
