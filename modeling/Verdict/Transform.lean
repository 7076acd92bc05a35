import Verdict.Trace

/-! Transforms: functions of one datum, registered under names. An unknown name passes
its value through; a transform that raises gives the absent value and a warning. -/

namespace Verdict

/-- A function with a label that tells it from others in a trace. -/
structure Transform where
  label : Text
  run : Datum → Except Fault Datum

/-- Transforms by name, each name bound once. -/
structure Registry where
  entries : List (Text × Transform)
  distinct : (entries.map Prod.fst).Nodup

namespace Registry

def empty : Registry := ⟨[], .nil⟩

def find? (r : Registry) (name : Text) : Option Transform := r.entries.lookup name

def contains (r : Registry) (name : Text) : Bool := (r.find? name).isSome

def size (r : Registry) : Nat := r.entries.length

/-- The bound names in ascending order. -/
def names (r : Registry) : List Text :=
  (r.entries.map Prod.fst).mergeSort fun a b => decide (a ≤ b)

/-- The registry without a name. -/
def erase (r : Registry) (name : Text) : Registry where
  entries := r.entries.filter (·.1 != name)
  distinct := r.distinct.sublist (List.filter_sublist.map _)

theorem not_mem_erase (r : Registry) (name : Text) :
    name ∉ (r.erase name).entries.map Prod.fst := by
  simp [erase]

/-- The registry with a name bound anew. -/
def insert (r : Registry) (name : Text) (t : Transform) : Registry where
  entries := (name, t) :: (r.erase name).entries
  distinct := List.nodup_cons.2 ⟨r.not_mem_erase name, (r.erase name).distinct⟩

theorem lookup_cons {α : Type} (name key : Text) (a : α) (es : List (Text × α)) :
    ((key, a) :: es).lookup name = if name = key then some a else es.lookup name := by
  rw [List.lookup_cons]
  split <;> simp_all

/-- Where each key has one entry, looking it up finds that entry. -/
theorem lookup_eq_some_iff_mem {α : Type} {key : Text} {a : α} {entries : List (Text × α)}
    (h : (entries.map Prod.fst).Nodup) : entries.lookup key = some a ↔ (key, a) ∈ entries := by
  induction entries with
  | nil => simp
  | cons entry rest ih =>
    obtain ⟨first, b⟩ := entry
    obtain ⟨hfirst, hrest⟩ := List.nodup_cons.1 h
    rw [lookup_cons, List.mem_cons, Prod.mk.injEq]
    by_cases hkey : key = first
    · subst hkey
      have hnot : (key, a) ∉ rest := fun hmem => hfirst (List.mem_map.2 ⟨_, hmem, rfl⟩)
      simp [hnot, eq_comm]
    · simp [hkey, ih hrest]

theorem find?_erase (r : Registry) (name other : Text) :
    (r.erase name).find? other = if other = name then none else r.find? other := by
  simp only [find?, erase]
  induction r.entries with
  | nil => simp
  | cons e es ih =>
    obtain ⟨key, t⟩ := e
    by_cases h : key = name
    · subst h
      rw [List.filter_cons_of_neg (by simp), ih, lookup_cons]
      split <;> rfl
    · rw [List.filter_cons_of_pos (by simp [h]), lookup_cons, lookup_cons, ih]
      by_cases h' : other = key
      · simp [h', h]
      · simp [h']

theorem find?_insert (r : Registry) (name other : Text) (t : Transform) :
    (r.insert name t).find? other = if other = name then some t else r.find? other := by
  have h := r.find?_erase name other
  simp only [find?] at h
  rw [find?, insert, lookup_cons, h]
  split <;> rfl

/-- Binds a name, replacing what it was bound to. The name must not be empty, and there
must be a function to bind: `none` stands for anything that is not one. -/
def register (r : Registry) (name : Text) (t : Option Transform) : Except Fault Registry :=
  if name = "" then .error .emptyTransformName
  else match t with
    | some t => .ok (r.insert name t)
    | none => .error (.notCallable name)

/-- Unbinds a name and says whether it was bound. -/
def unregister (r : Registry) (name : Text) : Bool × Registry := (r.contains name, r.erase name)

/-- Registers a list of transforms in order. -/
def registerAll (r : Registry) : List (Text × Option Transform) → Except Fault Registry
  | [] => .ok r
  | (name, t) :: rest => do registerAll (← r.register name t) rest

/-- Applies the transform bound to `name`. -/
def apply (r : Registry) (name : Text) (v : Value) : Traced Value :=
  match r.find? name with
  | none => do
    .emit (.record {
      level := .debug, source := .transforms
      message := "Unknown transform '" ++ name ++ "', passing value through"
      details := [(.transform, name)], cause := none })
    return v
  | some t => do
    .emit (.call name t.label v.raw)
    match t.run v.raw with
    | .ok d => return d.toValue
    | .error fault =>
      .emit (.record {
        level := .warning, source := .transforms
        message := "Transform '" ++ name ++ "' raised"
        details := [(.transform, name)], cause := some fault })
      return .absent

end Registry

end Verdict
