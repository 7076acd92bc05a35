import Mathlib.Logic.Function.Basic
import Verdict.Context

/-! Names as paths. The keys between the dots of a name are a path, and every text is the name of
exactly one. A mapping answers for a name by the entry under the whole of it, or else by the end
of its path; a walk that finds no way on ends at null. -/

namespace Verdict

/-! ### Paths -/

/-- Keys without dots, at least one of them. -/
structure KeyPath where
  keys : List Text
  ne_nil : keys ≠ []
  dotFree : ∀ key ∈ keys, .char '.' ∉ key.toList

namespace KeyPath

/-- The keys with a dot between each two. -/
def name (path : KeyPath) : Text := Text.intercalate "." path.keys

theorem name_toList (path : KeyPath) :
    path.name.toList = [.char '.'].intercalate (path.keys.map Text.toList) :=
  Text.toList_intercalate

/-- The keys of a path are what stands between the dots of its name. -/
theorem splitOn_name (path : KeyPath) :
    (path.name.toList.splitOn (.char '.')).map Text.ofList = path.keys := by
  have hdots : ∀ key ∈ path.keys.map Text.toList, .char '.' ∉ key := by
    intro cs hcs
    obtain ⟨key, hkey, rfl⟩ := List.mem_map.1 hcs
    exact path.dotFree key hkey
  rw [name_toList, List.splitOn_intercalate _ hdots (by simpa using path.ne_nil), List.map_map]
  exact List.map_id'' (fun key => Text.ofList_toList) path.keys

theorem not_mem_of_mem_splitOn {α : Type} [BEq α] [LawfulBEq α] {a : α} {l part : List α}
    (h : part ∈ l.splitOn a) : a ∉ part := by
  induction l generalizing part with
  | nil => simp_all
  | cons b l ih =>
    rw [List.splitOn_cons_eq_if_modifyHead] at h
    obtain ⟨first, rest, hsplit⟩ := List.exists_cons_of_ne_nil (List.splitOn_ne_nil a l)
    rw [hsplit] at h ih
    by_cases hb : (b == a) = true
    · rw [if_pos hb] at h
      rcases List.mem_cons.1 h with rfl | h
      · exact List.not_mem_nil
      · exact ih h
    · -- The part before the first separator grows by one that is none.
      rw [if_neg hb, List.modifyHead_cons] at h
      rcases List.mem_cons.1 h with rfl | h
      · have hab : a ≠ b := fun hab => hb (beq_iff_eq.2 hab.symm)
        exact List.not_mem_cons_of_ne_of_not_mem hab (ih List.mem_cons_self)
      · exact ih (List.mem_cons_of_mem _ h)

/-- The path that a text is the name of. -/
def ofName (s : Text) : KeyPath where
  keys := (s.toList.splitOn (.char '.')).map Text.ofList
  ne_nil := by simp
  dotFree := by
    intro key hkey
    obtain ⟨part, hpart, rfl⟩ := List.mem_map.1 hkey
    rw [Text.toList_ofList]
    exact not_mem_of_mem_splitOn hpart

theorem name_ofName (s : Text) : (ofName s).name = s := by
  have hkeys : (ofName s).keys.map Text.toList = s.toList.splitOn (.char '.') := by
    rw [ofName, List.map_map]
    exact List.map_id'' (fun part => Text.toList_ofList) _
  rw [← Text.toList_inj, name_toList, hkeys, List.intercalate_splitOn]

theorem ofName_name (path : KeyPath) : ofName path.name = path := by
  cases path with
  | mk keys ne_nil dotFree =>
    have hkeys : (ofName (mk keys ne_nil dotFree).name).keys = keys := splitOn_name _
    rw [mk.injEq]
    exact hkeys

/-- Every text is the name of one path. -/
theorem name_bijective : Function.Bijective name :=
  Function.bijective_iff_has_inverse.2 ⟨ofName, ofName_name, name_ofName⟩

end KeyPath

/-! ### Walks -/

namespace Datum

variable {d e next : Datum} {key : Text} {keys : List Text}

/-- The way on under a key: an entry of a mapping that is not null. -/
structure Leads (d : Datum) (key : Text) (next : Datum) : Prop where
  entry : ∃ entries, d = .mapping entries ∧ lookup key entries = some next
  ne_null : next ≠ .null

/-- A walk along keys that finds its way to the end. -/
inductive Reaches : Datum → List Text → Datum → Prop
  | here (d : Datum) : Reaches d [] d
  | step {d next e : Datum} {key : Text} {keys : List Text} (h : d.Leads key next)
      (rest : Reaches next keys e) : Reaches d (key :: keys) e

/-- A walk along keys that comes to a datum from which the next key leads nowhere. -/
def Strands (d : Datum) (keys : List Text) : Prop :=
  ∃ passed key rest stop, keys = passed ++ key :: rest ∧ d.Reaches passed stop ∧
    ∀ next, ¬ stop.Leads key next

theorem follow_null (keys : List Text) : null.follow keys = null := by
  cases keys <;> rfl

theorem follow_of_leads (h : d.Leads key next) : d.follow (key :: keys) = next.follow keys := by
  obtain ⟨⟨entries, rfl, hlookup⟩, -⟩ := h
  rw [follow, hlookup]

theorem follow_of_not_leads (h : ∀ next, ¬ d.Leads key next) : d.follow (key :: keys) = null := by
  cases d with
  | mapping entries =>
    rw [follow]
    cases hlookup : lookup key entries with
    | none => rfl
    | some next =>
      have hnull : next = null := by_contra fun hne => h next ⟨⟨entries, rfl, hlookup⟩, hne⟩
      rw [hnull]
      exact follow_null keys
  | _ => rfl

theorem follow_of_reaches (h : d.Reaches keys e) : d.follow keys = e := by
  induction h with
  | here d => rfl
  | step h _ ih => rw [follow_of_leads h, ih]

theorem follow_append (d : Datum) (passed keys : List Text) :
    d.follow (passed ++ keys) = (d.follow passed).follow keys := by
  induction passed generalizing d with
  | nil => rfl
  | cons key passed ih =>
    rw [List.cons_append]
    by_cases h : ∃ next, d.Leads key next
    · obtain ⟨next, hnext⟩ := h
      rw [follow_of_leads hnext, follow_of_leads hnext, ih]
    · rw [follow_of_not_leads (not_exists.1 h), follow_of_not_leads (not_exists.1 h), follow_null]

theorem follow_of_strands (h : d.Strands keys) : d.follow keys = null := by
  obtain ⟨passed, key, rest, stop, rfl, hreaches, hstop⟩ := h
  rw [follow_append, follow_of_reaches hreaches, follow_of_not_leads hstop]

/-- A walk either comes to its end or strands. -/
theorem reaches_or_strands (d : Datum) (keys : List Text) :
    (∃ e, d.Reaches keys e) ∨ d.Strands keys := by
  induction keys generalizing d with
  | nil => exact .inl ⟨d, .here d⟩
  | cons key keys ih =>
    by_cases h : ∃ next, d.Leads key next
    · obtain ⟨next, hnext⟩ := h
      rcases ih next with ⟨e, he⟩ | ⟨passed, other, rest, stop, rfl, hreaches, hstop⟩
      · exact .inl ⟨e, .step hnext he⟩
      · exact .inr ⟨key :: passed, other, rest, stop, rfl, .step hnext hreaches, hstop⟩
    · exact .inr ⟨[], key, keys, d, rfl, .here d, not_exists.1 h⟩

end Datum

/-! ### Answers -/

/-- What a mapping has to say to the name of a path. -/
inductive Answers (entries : List (Datum × Datum)) (path : KeyPath) : Datum → Prop
  /-- An entry under the whole name comes before any walk, and may be null. -/
  | exact {d : Datum} (h : Datum.lookup path.name entries = some d) : Answers entries path d
  | reached {d : Datum} (h : Datum.lookup path.name entries = none)
      (hwalk : (Datum.mapping entries).Reaches path.keys d) : Answers entries path d
  | stranded (h : Datum.lookup path.name entries = none)
      (hwalk : (Datum.mapping entries).Strands path.keys) : Answers entries path .null

variable {entries : List (Datum × Datum)} {path : KeyPath} {d : Datum}

theorem resolveName_of_answers (h : Answers entries path d) :
    Datum.resolveName entries path.name = d := by
  rw [Datum.resolveName, path.splitOn_name]
  cases h with
  | exact h => rw [h]
  | reached h hwalk =>
    rw [h]
    exact Datum.follow_of_reaches hwalk
  | stranded h hwalk =>
    rw [h]
    exact Datum.follow_of_strands hwalk

theorem exists_answers (entries : List (Datum × Datum)) (path : KeyPath) :
    ∃ d, Answers entries path d := by
  cases h : Datum.lookup path.name entries with
  | some d => exact ⟨d, .exact h⟩
  | none =>
    rcases (Datum.mapping entries).reaches_or_strands path.keys with ⟨d, hwalk⟩ | hwalk
    · exact ⟨d, .reached h hwalk⟩
    · exact ⟨.null, .stranded h hwalk⟩

/-- Every name is that of one path, and a mapping resolves it to its one answer. -/
theorem mappingResolver_answers (entries : List (Datum × Datum)) :
    Function.Bijective KeyPath.name ∧
    ∀ path : KeyPath, ∃ d, mappingResolver entries path.name = .ok d ∧
      ∀ e, Answers entries path e ↔ e = d := by
  refine ⟨KeyPath.name_bijective, fun path => ?_⟩
  obtain ⟨d, hd⟩ := exists_answers entries path
  refine ⟨d, congrArg Except.ok (resolveName_of_answers hd), fun e => ?_⟩
  constructor
  · intro he
    exact (resolveName_of_answers he).symm.trans (resolveName_of_answers hd)
  · rintro rfl
    exact hd

end Verdict
