import Mathlib.Data.List.TakeWhile
import Verdict.Text.Blank

/-! Trimming takes away the longest runs of blanks at both ends, and nothing else. A text
with something between its blanks falls apart into blanks, core and blanks in one way. -/

namespace Verdict

/-- What is asked of the characters of a text is decided one by one. -/
@[reducible]
def decidableForallMem (p : Point → Prop) [DecidablePred p] (cs : List Point) :
    Decidable (∀ c ∈ cs, p c) := cs.decidableBAll p

namespace Text

section Runs

variable {α : Type} {p : α → Bool} {run rest before core after : List α}

/-- A run of `p` before a rest that does not go on with it. -/
theorem takeWhile_append_of_head (hrun : ∀ a ∈ run, p a = true)
    (hrest : ∀ a ∈ rest.head?, p a = false) : (run ++ rest).takeWhile p = run := by
  rw [List.takeWhile_append_of_pos hrun]
  cases rest with
  | nil => simp
  | cons a rest => simp [hrest a rfl]

theorem dropWhile_append_of_head (hrun : ∀ a ∈ run, p a = true)
    (hrest : ∀ a ∈ rest.head?, p a = false) : (run ++ rest).dropWhile p = rest := by
  rw [List.dropWhile_append_of_pos hrun]
  cases rest with
  | nil => rfl
  | cons a rest => simp [hrest a rfl]

theorem eq_false_of_mem_head?_dropWhile {l : List α} {a : α} (h : a ∈ (l.dropWhile p).head?) :
    p a = false := by
  have hnot := List.head?_dropWhile_not p l
  rw [Option.mem_def.1 h] at hnot
  exact hnot

/-- A list without the runs of `p` at both ends. -/
def strip (p : α → Bool) (l : List α) : List α := ((l.dropWhile p).reverse.dropWhile p).reverse

theorem strip_append (hbefore : ∀ a ∈ before, p a = true) (hhead : ∀ a ∈ core.head?, p a = false)
    (hlast : ∀ a ∈ core.getLast?, p a = false) (hafter : ∀ a ∈ after, p a = true) :
    strip p (before ++ core ++ after) = core := by
  cases core with
  | nil =>
    have hnil : (before ++ after).dropWhile p = [] :=
      List.dropWhile_eq_nil_iff.2 fun a ha => (List.mem_append.1 ha).elim (hbefore a) (hafter a)
    rw [strip, List.append_nil, hnil]
    rfl
  | cons c cs =>
    have hrev : ∀ a ∈ (c :: cs).reverse.head?, p a = false := by
      rw [List.head?_reverse]
      exact hlast
    rw [strip, List.append_assoc, dropWhile_append_of_head hbefore (by simpa using hhead),
      List.reverse_append,
      dropWhile_append_of_head (fun a ha => hafter a (List.mem_reverse.1 ha)) hrev,
      List.reverse_reverse]

theorem strip_eq_self (hhead : ∀ a ∈ core.head?, p a = false)
    (hlast : ∀ a ∈ core.getLast?, p a = false) : strip p core = core := by
  have hstrip : strip p ([] ++ core ++ []) = core := strip_append (by simp) hhead hlast (by simp)
  rwa [List.nil_append, List.append_nil] at hstrip

theorem dropWhile_eq_strip_append (p : α → Bool) (l : List α) :
    l.dropWhile p = strip p l ++ ((l.dropWhile p).reverse.takeWhile p).reverse := by
  rw [strip, ← List.reverse_append, List.takeWhile_append_dropWhile, List.reverse_reverse]

theorem exists_eq_strip (p : α → Bool) (l : List α) : ∃ before after, (∀ a ∈ before, p a = true) ∧
    (∀ a ∈ after, p a = true) ∧ l = before ++ strip p l ++ after := by
  refine ⟨l.takeWhile p, ((l.dropWhile p).reverse.takeWhile p).reverse,
    fun a ha => List.mem_takeWhile_imp ha,
    fun a ha => List.mem_takeWhile_imp (List.mem_reverse.1 ha), ?_⟩
  rw [List.append_assoc, ← dropWhile_eq_strip_append, List.takeWhile_append_dropWhile]

theorem eq_false_of_mem_head?_strip {l : List α} {a : α} (h : a ∈ (strip p l).head?) :
    p a = false := by
  have hhead : (l.dropWhile p).head? = some a := by
    rw [dropWhile_eq_strip_append, List.head?_append, Option.mem_def.1 h, Option.some_or]
  exact eq_false_of_mem_head?_dropWhile hhead

theorem eq_false_of_mem_getLast?_strip {l : List α} {a : α} (h : a ∈ (strip p l).getLast?) :
    p a = false := by
  rw [strip, List.getLast?_reverse] at h
  exact eq_false_of_mem_head?_dropWhile h

end Runs

/-- Nothing but blanks. -/
def Blank (w : List Point) : Prop := ∀ c ∈ w, isBlank c = true

instance (w : List Point) : Decidable (Blank w) := decidableForallMem _ w

/-- No blank at either end. -/
structure Trimmed (cs : List Point) : Prop where
  head : ∀ c ∈ cs.head?, isBlank c = false
  last : ∀ c ∈ cs.getLast?, isBlank c = false

variable {w v core : List Point}

theorem trimmed_of_forall (h : ∀ c ∈ core, isBlank c = false) : Trimmed core :=
  ⟨fun c hc => h c (List.mem_of_mem_head? hc), fun c hc => h c (List.mem_of_mem_getLast? hc)⟩

theorem trim_append (hw : Blank w) (hc : Trimmed core) (hv : Blank v) :
    trim (w ++ core ++ v) = core := strip_append hw hc.head hc.last hv

theorem trim_of_trimmed (h : Trimmed core) : trim core = core := strip_eq_self h.head h.last

theorem exists_eq_trim (cs : List Point) : ∃ w v, Blank w ∧ Blank v ∧ cs = w ++ trim cs ++ v :=
  exists_eq_strip isBlank cs

theorem trimmed_trim (cs : List Point) : Trimmed (trim cs) :=
  ⟨fun _ => eq_false_of_mem_head?_strip, fun _ => eq_false_of_mem_getLast?_strip⟩

theorem mem_trim_iff {c : Point} {cs : List Point} (h : isBlank c = false) :
    c ∈ trim cs ↔ c ∈ cs := by
  obtain ⟨w, v, hw, hv, hcs⟩ := exists_eq_trim cs
  constructor
  · intro hc
    rw [hcs]
    simp [hc]
  · intro hc
    rw [hcs, List.mem_append, List.mem_append] at hc
    rcases hc with (hc | hc) | hc
    · rw [hw c hc] at h
      cases h
    · exact hc
    · rw [hv c hc] at h
      cases h

/-- Blanks, core and blanks of a text are determined by it. -/
theorem padded_inj {w' v' core' : List Point} (hw : Blank w) (hw' : Blank w') (hv : Blank v)
    (hv' : Blank v') (hc : Trimmed core) (hc' : Trimmed core') (hne : core ≠ [])
    (h : w ++ core ++ v = w' ++ core' ++ v') : w = w' ∧ core = core' ∧ v = v' := by
  have hcore : core = core' := by
    rw [← trim_append hw hc hv, h, trim_append hw' hc' hv']
  subst hcore
  have hhead : ∀ u, ∀ c ∈ (core ++ u).head?, isBlank c = false := by
    intro u c hm
    obtain ⟨d, ds, rfl⟩ := List.exists_cons_of_ne_nil hne
    exact hc.head c hm
  have hw_eq : w = w' := by
    rw [← takeWhile_append_of_head hw (hhead v), ← takeWhile_append_of_head hw' (hhead v'),
      ← List.append_assoc, h, List.append_assoc]
  subst hw_eq
  exact ⟨rfl, rfl, List.append_cancel_left h⟩

end Text

end Verdict
