import Verdict.Proofs.Resolution
import Verdict.Transform.Builtin

/-! The built-in transforms. Each brings values into a form of its own, as far as they have one,
and leaves what is in that form as it is. -/

namespace Verdict

variable {v w : Value} {name : Text}

theorem Value.toValue_raw (h : v.isNaN = false) : v.raw.toValue = v := by
  cases v with
  | number n => simp_all [raw, Datum.toValue, isNaN]
  | string s => rfl
  | boolean b => rfl
  | absent => rfl

theorem Value.toValue_raw_of_isNaN (h : v.isNaN = true) : v.raw.toValue = .absent := by
  cases v with
  | number n => simp_all [raw, Datum.toValue, isNaN]
  | string s => cases h
  | boolean b => cases h
  | absent => cases h

namespace Builtin

/-! ### Numbers -/

section Numbers

variable {α : Type} {f : α → Number}

/-- What comes of a value that is taken for one of the numbers `f`: such a number, the value itself
if it is a text that writes no number, or nothing. -/
inductive Converted (f : α → Number) (v : Value) : Value → Prop
  | number (a : α) (h : (f a).isNaN = false) : Converted f v (.number (f a))
  | kept {s : Text} (hv : v = .string s) (hs : Number.read? s.toList = none) :
      Converted f v (.string s)
  | absent : Converted f v .absent

theorem converted_map (f : α → Number) (v : Value) (x : Except Fault α) :
    Converted f v (answerValue ((x.map f).map .number)) := by
  cases x with
  | error fault => exact .absent
  | ok a =>
    cases ha : (f a).isNaN with
    | true => simpa [Except.map, answerValue, Datum.toValue, ha] using .absent
    | false => simpa [Except.map, answerValue, Datum.toValue, ha] using .number a ha

theorem converted_convertNumber (f : α → Number) (convert : Number → Except Fault α) (v : Value) :
    Converted f v (answerValue (convertNumber (fun n => (convert n).map f) v.raw)) := by
  rw [convertNumber]
  cases hnan : v.isNaN with
  | true =>
    rw [Value.toValue_raw_of_isNaN hnan]
    simpa [answerValue, Value.toValue_raw_of_isNaN hnan] using .absent
  | false =>
    rw [Value.toValue_raw hnan]
    cases v with
    | string s =>
      dsimp only
      split
      · exact converted_map f _ _
      · next hs => exact .kept rfl hs
    | number n => exact converted_map f _ _
    | boolean b => exact converted_map f _ _
    | absent => exact .absent

/-- A conversion that gives each of its numbers for itself changes nothing the second time. -/
theorem convertNumber_of_converted (convert : Number → Except Fault α)
    (hf : ∀ a, convert (f a) = .ok a) (h : Converted f v w) :
    answerValue (convertNumber (fun n => (convert n).map f) w.raw) = w := by
  rw [convertNumber]
  cases h with
  | number a ha =>
    have hraw : (Value.number (f a)).raw.toValue = .number (f a) := Value.toValue_raw ha
    rw [hraw]
    dsimp only
    rw [hf]
    exact hraw
  | @kept s hv hs =>
    have hraw : (Value.string s).raw.toValue = .string s := rfl
    rw [hraw]
    dsimp only
    rw [hs]
    exact hraw
  | absent => rfl

end Numbers

theorem converted_int (v : Value) : Converted Number.int v (answerValue (int v.raw)) :=
  converted_convertNumber Number.int Number.toInt v

theorem converted_double (v : Value) : Converted Number.double v (answerValue (double v.raw)) :=
  converted_convertNumber Number.double Number.toDouble v

theorem int_of_converted (h : Converted Number.int v w) : answerValue (int w.raw) = w :=
  convertNumber_of_converted Number.toInt (fun _ => rfl) h

theorem double_of_converted (h : Converted Number.double v w) : answerValue (double w.raw) = w :=
  convertNumber_of_converted Number.toDouble (fun _ => rfl) h

/-! ### Texts and truth values -/

theorem kind_string (v : Value) :
    (answerValue (string v.raw)).kind = .string ∨ answerValue (string v.raw) = .absent := by
  rw [string]
  cases v.raw.toValue with
  | absent => exact .inr rfl
  | string s => exact .inl rfl
  | number n =>
    dsimp only
    cases (Value.number n).text with
    | error fault => exact .inr rfl
    | ok s => exact .inl rfl
  | boolean b => cases b <;> exact .inl rfl

theorem string_of_kind (h : w.kind = .string ∨ w = .absent) : answerValue (string w.raw) = w := by
  rcases h with h | rfl
  · cases w <;> cases h
    rfl
  · rfl

theorem kind_bool (v : Value) :
    (answerValue (bool v.raw)).kind = .boolean ∨ answerValue (bool v.raw) = .absent := by
  rw [bool]
  cases hnan : v.isNaN with
  | true =>
    rw [Value.toValue_raw_of_isNaN hnan]
    exact .inr (Value.toValue_raw_of_isNaN hnan)
  | false =>
    rw [Value.toValue_raw hnan]
    cases v with
    | absent => exact .inr rfl
    | string s => exact .inl rfl
    | number n => exact .inl rfl
    | boolean b => exact .inl rfl

theorem bool_of_kind (h : w.kind = .boolean ∨ w = .absent) : answerValue (bool w.raw) = w := by
  rcases h with h | rfl
  · cases w <;> cases h
    rfl
  · rfl

end Builtin

/-! ### Registries -/

namespace Registry

variable {r : Registry}

/-- The built-in transforms are bound to their own names; other names may be bound besides. -/
def HasBuiltins (r : Registry) : Prop := ∀ t ∈ Builtin.all, r.find? t.label = some t

theorem hasBuiltins_builtins : builtins.HasBuiltins := by
  simp only [HasBuiltins, Builtin.all, List.forall_mem_cons]
  exact ⟨rfl, rfl, rfl, rfl, by simp⟩

theorem mem_of_find?_foldl_insert {t : Transform} {ts : List Transform}
    (h : (ts.foldl (fun r t => r.insert t.label t) r).find? name = some t) :
    t ∈ ts ∨ r.find? name = some t := by
  induction ts generalizing r with
  | nil => exact .inr h
  | cons u ts ih =>
    rcases ih h with ht | ht
    · exact .inl (List.mem_cons_of_mem u ht)
    · rw [find?_insert] at ht
      split at ht
      · cases ht
        exact .inl List.mem_cons_self
      · exact .inr ht

theorem mem_all_of_find?_builtins {t : Transform} (h : builtins.find? name = some t) :
    t ∈ Builtin.all :=
  (mem_of_find?_foldl_insert h).resolve_right (by simp [empty, find?])

theorem HasBuiltins.insert {t : Transform} (h : r.HasBuiltins)
    (hname : ∀ b ∈ Builtin.all, b.label ≠ name) : (r.insert name t).HasBuiltins := by
  intro b hb
  rw [find?_insert, if_neg (hname b hb), h b hb]

/-- Applying a name to `v` gives `w`, and applying it again leaves `w` as it is. -/
def Settles (r : Registry) (name : Text) (v w : Value) : Prop :=
  (r.apply name v).outcome = .ok w ∧ (r.apply name w).outcome = .ok w

theorem HasBuiltins.settles (h : r.HasBuiltins) {run : Datum → Except Fault Datum}
    (ht : ⟨name, run⟩ ∈ Builtin.all)
    (hw : answerValue (run (answerValue (run v.raw)).raw) = answerValue (run v.raw)) :
    r.Settles name v (answerValue (run v.raw)) := by
  have hname : r.find? name = some ⟨name, run⟩ := h ⟨name, run⟩ ht
  rw [Settles, apply_outcome, apply_outcome, image, image, hname]
  exact ⟨rfl, congrArg _ hw⟩

/-- Each built-in transform settles a value at once, in a form of its own. -/
structure SettledByBuiltins (r : Registry) (v : Value) : Prop where
  int : ∃ w, r.Settles "int" v w ∧ Builtin.Converted Number.int v w
  double : ∃ w, r.Settles "double" v w ∧ Builtin.Converted Number.double v w
  string : ∃ w, r.Settles "string" v w ∧ (w.kind = .string ∨ w = .absent)
  bool : ∃ w, r.Settles "bool" v w ∧ (w.kind = .boolean ∨ w = .absent)

/-- In a registry with the built-in transforms all values are settled so, whatever else it binds. -/
theorem settledByBuiltins_of_hasBuiltins (h : r.HasBuiltins) (v : Value) :
    r.SettledByBuiltins v where
  int := by
    have hform := Builtin.converted_int v
    exact ⟨_, h.settles (by simp [Builtin.all]) (Builtin.int_of_converted hform), hform⟩
  double := by
    have hform := Builtin.converted_double v
    exact ⟨_, h.settles (by simp [Builtin.all]) (Builtin.double_of_converted hform), hform⟩
  string := by
    have hform := Builtin.kind_string v
    exact ⟨_, h.settles (by simp [Builtin.all]) (Builtin.string_of_kind hform), hform⟩
  bool := by
    have hform := Builtin.kind_bool v
    exact ⟨_, h.settles (by simp [Builtin.all]) (Builtin.bool_of_kind hform), hform⟩

/-- Another transform does not stand in their way, and an infinite number is no integer. -/
theorem settledByBuiltins_of_hasBuiltins_insert :
    let r := builtins.insert "drop" ⟨"drop", fun _ => .ok .null⟩
    let v : Value := .number (.double (.infinite true))
    r.HasBuiltins ∧ r.SettledByBuiltins v ∧ r.SettledByBuiltins (.string " 7.5 ") ∧
      (r.apply "int" v).outcome = .ok .absent ∧
      (r.apply "int" (.string " 7.5 ")).outcome = .ok (.number (.int 7)) := by
  intro r v
  have hr : r.HasBuiltins := hasBuiltins_builtins.insert (by simp [Builtin.all])
  have himage : r.image "int" (.string " 7.5 ") = .number (.int 7) := by decide +kernel
  refine ⟨hr, settledByBuiltins_of_hasBuiltins hr v, settledByBuiltins_of_hasBuiltins hr _, rfl, ?_⟩
  rw [apply_outcome, himage]

end Registry

end Verdict
