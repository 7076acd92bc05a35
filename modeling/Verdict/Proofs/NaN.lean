import Verdict.Proofs.Builtins
import Verdict.Proofs.Comparison
import Verdict.Proofs.NamePath
import Verdict.Proofs.Turns

/-! Values that are no NaN. A NaN gets into a value by hand only: raw data, texts and the built-in
transforms give none, so no comparison of what they give meets one. -/

namespace Verdict

variable {ctx : Context} {w : Surroundings} {policy : Policy} {t : Transform} {d : Datum}
  {v l r a b : Value} {entries : List (Datum × Datum)}

/-! ### Data -/

namespace Datum

/-- A NaN that was made a value by hand; a NaN among raw data is none. -/
def IsNaNValue (d : Datum) : Prop := ∃ v, d = .value v ∧ v.isNaN = true

theorem isNaN_toValue_iff : d.toValue.isNaN = true ↔ d.IsNaNValue := by
  cases d with
  | value v => simp [toValue, IsNaNValue]
  | number n => cases hn : n.isNaN <;> simp [toValue, IsNaNValue, Value.isNaN, hn]
  | _ => simp [toValue, IsNaNValue, Value.isNaN]

theorem isNaN_toValue (h : ¬ d.IsNaNValue) : d.toValue.isNaN = false :=
  Bool.eq_false_iff.2 (mt isNaN_toValue_iff.1 h)

/-- A NaN made a value by hand stands somewhere in a datum, at the top or inside mappings. -/
inductive HoldsNaNValue : Datum → Prop
  | here {v : Value} (h : v.isNaN = true) : HoldsNaNValue (.value v)
  | entry {entries : List (Datum × Datum)} {key e : Datum} (hmem : (key, e) ∈ entries)
      (h : HoldsNaNValue e) : HoldsNaNValue (.mapping entries)

theorem exists_mem_of_lookup {name : Text} (h : lookup name entries = some d) :
    ∃ key, (key, d) ∈ entries := by
  induction entries using lookup.induct name with
  | case1 => cases h
  | case2 e rest =>
    rw [lookup, if_pos rfl] at h
    cases h
    exact ⟨_, List.mem_cons_self⟩
  | case3 key e rest hne ih =>
    rw [lookup, if_neg hne] at h
    obtain ⟨key, hmem⟩ := ih h
    exact ⟨key, List.mem_cons_of_mem _ hmem⟩
  | case4 entry rest hne ih =>
    rw [lookup] at h
    · obtain ⟨key, hmem⟩ := ih h
      exact ⟨key, List.mem_cons_of_mem _ hmem⟩
    · exact hne

theorem holdsNaNValue_of_reaches {keys : List Text} {e : Datum} (h : d.Reaches keys e)
    (he : e.HoldsNaNValue) : d.HoldsNaNValue := by
  induction h with
  | here => exact he
  | step hleads _ ih =>
    obtain ⟨⟨entries, rfl, hlookup⟩, -⟩ := hleads
    obtain ⟨key, hmem⟩ := exists_mem_of_lookup hlookup
    exact .entry hmem (ih he)

/-- What a mapping answers stands in it, unless it is null. -/
theorem not_isNaNValue_resolveName (h : ¬ (mapping entries).HoldsNaNValue) (name : Text) :
    ¬ (resolveName entries name).IsNaNValue := by
  obtain ⟨d, hd⟩ := exists_answers entries (.ofName name)
  have hname := resolveName_of_answers hd
  rw [KeyPath.name_ofName] at hname
  rw [hname]
  rintro ⟨v, rfl, hv⟩
  cases hd with
  | exact hlookup =>
    obtain ⟨key, hmem⟩ := exists_mem_of_lookup hlookup
    exact h (.entry hmem (.here hv))
  | reached _ hwalk => exact h (holdsNaNValue_of_reaches hwalk (.here hv))

end Datum

/-! ### Collaborators -/

/-- A transform that answers with no NaN made by hand. -/
def Transform.NaNFree (t : Transform) : Prop :=
  ∀ (v : Value) (d : Datum), t.run v.raw = .ok d → ¬ d.IsNaNValue

theorem Transform.nanFree_iff :
    t.NaNFree ↔ ∀ v : Value, (answerValue (t.run v.raw)).isNaN = false := by
  constructor
  · intro h v
    cases hrun : t.run v.raw with
    | error fault => rfl
    | ok d => exact Datum.isNaN_toValue (h v d hrun)
  · intro h v d hrun hd
    have hv := h v
    rw [hrun, answerValue, Datum.isNaN_toValue_iff.2 hd] at hv
    cases hv

theorem Value.isNaN_of_kind (h : v.kind ≠ .number) : v.isNaN = false := by
  cases v with
  | number n => exact absurd rfl h
  | _ => rfl

theorem Builtin.Converted.isNaN {α : Type} {f : α → Number} (h : Converted f v a) :
    a.isNaN = false := by
  cases h with
  | number _ h => exact h
  | kept => rfl
  | absent => rfl

theorem Builtin.nanFree (ht : t ∈ Builtin.all) : t.NaNFree := by
  rw [Transform.nanFree_iff]
  intro v
  simp only [Builtin.all, List.mem_cons, List.not_mem_nil, or_false] at ht
  rcases ht with rfl | rfl | rfl | rfl
  · exact (converted_int v).isNaN
  · exact (converted_double v).isNaN
  · rcases kind_string v with h | h
    · exact Value.isNaN_of_kind (by rw [h]; decide)
    · exact h ▸ rfl
  · rcases kind_bool v with h | h
    · exact Value.isNaN_of_kind (by rw [h]; decide)
    · exact h ▸ rfl

/-- No NaN made by hand comes from the resolver or from a transform that is not built in. -/
structure Context.NaNFree (ctx : Context) : Prop where
  resolver (name : Text) (d : Datum) (h : ctx.resolver name = .ok d) : ¬ d.IsNaNValue
  registry (name : Text) (t : Transform) (h : ctx.registry.find? name = some t) :
    t ∈ Builtin.all ∨ t.NaNFree

namespace Context.NaNFree

theorem isNaN_nameValue (h : ctx.NaNFree) (name : Text) : (ctx.nameValue name).isNaN = false := by
  rw [nameValue]
  cases hname : ctx.resolver name with
  | error fault => rfl
  | ok d => exact Datum.isNaN_toValue (h.resolver name d hname)

theorem isNaN_image (h : ctx.NaNFree) (name : Text) (hv : v.isNaN = false) :
    (ctx.registry.image name v).isNaN = false := by
  rw [Registry.image]
  cases hname : ctx.registry.find? name with
  | none => exact hv
  | some t =>
    -- a built-in transform needs no assumption about what it answers
    have ht : t.NaNFree := (h.registry name t hname).elim Builtin.nanFree id
    exact Transform.nanFree_iff.1 ht v

end Context.NaNFree

/-! ### Operands -/

/-- An operand that is no literal of a NaN made a value by hand. -/
inductive Operand.NaNFree : Operand → Prop
  | token (text : Datum) : NaNFree (.token text)
  | literal {d : Datum} (h : ¬ d.IsNaNValue) : NaNFree (.literal d.toValue)
  | other (d : Datum) : NaNFree (.other d)

theorem Token.isNaN_valueIn (h : ∀ calls, (w calls).NaNFree) (t : Token) :
    (t.valueIn w).isNaN = false := by
  have hname := (h []).isNaN_nameValue t.name
  rw [valueIn]
  cases t.function with
  | none => exact hname
  | some function => exact (h _).isNaN_image function hname

theorem Operand.isNaN_valueIn (h : ∀ calls, (w calls).NaNFree) {x : Operand} (hx : x.NaNFree) :
    (x.valueIn w).isNaN = false := by
  cases hx with
  | literal hd => exact Datum.isNaN_toValue hd
  | other d => rfl
  | token text =>
    rw [valueIn]
    cases Token.ofDatum? text with
    | none => rfl
    | some t => exact t.isNaN_valueIn h

/-! ### Pairs -/

theorem Value.isNaN_of_toNumber? {x : Number} (hv : v.isNaN = false)
    (h : v.toNumber? policy = some x) : x.isNaN = false := by
  cases v with
  | number n => cases h; exact hv
  | string s =>
    rw [toNumber?] at h
    split at h
    · simpa using (Option.filter_eq_some_iff.1 h).2
    · cases h
  | boolean b => cases h
  | absent => cases h

theorem isNaN_of_coercePair (hl : l.isNaN = false) (hr : r.isNaN = false)
    (h : coercePair policy l r = some (a, b)) : a.isNaN = false ∧ b.isNaN = false := by
  cases coercePair_eq_some_iff.1 h with
  | same => exact ⟨hl, hr⟩
  | numbers _ hx hy => exact ⟨Value.isNaN_of_toNumber? hl hx, Value.isNaN_of_toNumber? hr hy⟩
  | booleans => exact ⟨rfl, rfl⟩

/-- No comparison of two values meets a NaN, and numbers they are compared as have an order. -/
structure MeetNoNaN (l r : Value) : Prop where
  left : l.isNaN = false
  right : r.isNaN = false
  components (policy : Policy) (a b : Value) (h : coercePair policy l r = some (a, b)) :
    a.isNaN = false ∧ b.isNaN = false
  trichotomy (ctx : Context) (x y : Number)
    (h : coercePair ctx.policy l r = some (.number x, .number y)) :
    ∃! op, op ∈ [.lessThan, .equals, .greaterThan] ∧ Succeeds ctx op l r

theorem meetNoNaN_of_isNaN (hl : l.isNaN = false) (hr : r.isNaN = false) : MeetNoNaN l r where
  left := hl
  right := hr
  components _ _ _ h := isNaN_of_coercePair hl hr h
  trichotomy _ _ _ h := by
    obtain ⟨hx, hy⟩ := isNaN_of_coercePair hl hr h
    exact (existsUnique_succeeds h hx hy).1

/-- Operands come to values that are no NaN, one after the other among collaborators that may
remember, unless someone made a NaN a value by hand. -/
theorem meetNoNaN_of_nanFree (h : ∀ calls, (w calls).NaNFree) {x y : Operand} (hx : x.NaNFree)
    (hy : y.NaNFree) :
    ∃ l r, ((do return (← x.converse, ← y.converse) : Dialogue (Value × Value)) w).outcome =
      .ok (l, r) ∧ MeetNoNaN l r := by
  -- the second operand meets what the calls of the first have left
  have hrest : ∀ calls, (w.after (x.converse w).calls calls).NaNFree := fun _ => h _
  refine ⟨_, _, ?_, meetNoNaN_of_isNaN (x.isNaN_valueIn h hx) (y.isNaN_valueIn hrest hy)⟩
  rw [Dialogue.outcome_bind_of_ok (x.outcome_converse w),
    Dialogue.outcome_bind_of_ok (y.outcome_converse _)]
  rfl

/-- A NaN among the data of a mapping, and one that a text writes, both come to nothing. -/
theorem meetNoNaN_of_nanFree_mapping :
    let entries : List (Datum × Datum) :=
      [(.string "ratio", .number (.double .nan)), (.string "text", .string " -NaN")]
    let ctx : Context := ⟨mappingResolver entries, .builtins, .known .default, {}⟩
    let x : Operand := .token (.string "\x7b\x7bratio\x7d\x7d")
    let y : Operand := .token (.string "\x7b\x7bdouble(text)\x7d\x7d")
    let both : Dialogue (Value × Value) := do return (← x.converse, ← y.converse)
    x.value ctx = .absent ∧ y.value ctx = .absent ∧ ctx.NaNFree ∧
      ∃ l r, (both fun _ => ctx).outcome = .ok (l, r) ∧ MeetNoNaN l r := by
  intro entries ctx x y both
  have hentries : ¬ (Datum.mapping entries).HoldsNaNValue := by
    rintro (_ | ⟨hmem, h⟩)
    simp only [entries, List.mem_cons, Prod.mk.injEq, List.not_mem_nil, or_false] at hmem
    rcases hmem with ⟨-, rfl⟩ | ⟨-, rfl⟩ <;> cases h
  have hctx : ctx.NaNFree := by
    refine ⟨fun name d h => ?_, fun name t h => .inl (Registry.mem_all_of_find?_builtins h)⟩
    cases h
    exact Datum.not_isNaNValue_resolveName hentries name
  exact ⟨by decide +kernel, by decide +kernel, hctx,
    meetNoNaN_of_nanFree (w := fun _ => ctx) (fun _ => hctx) (.token _) (.token _)⟩

end Verdict
