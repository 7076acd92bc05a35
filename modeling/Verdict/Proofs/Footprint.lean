import Verdict.Proofs.Agreement
import Verdict.Transform.Builtin

/-! What an evaluation reads. Of a mapping it reads the entry under a name and the entry under
the part of that name before its first dot; of a registry, the transforms that its tokens
call. Nothing else there has a say in an outcome or a text. -/

namespace Verdict

/-! ### Names in mappings -/

namespace Datum

/-- The part of a name before its first dot, or all of it. -/
def root (name : Text) : Text := .ofList (name.toList.takeWhile (· ≠ .char '.'))

variable {entries others : List (Datum × Datum)} {name : Text}

theorem exists_splitOn_eq_cons (cs : List Point) :
    ∃ parts, cs.splitOn (.char '.') = cs.takeWhile (· ≠ .char '.') :: parts := by
  rw [List.splitOn]
  induction cs with
  | nil => exact ⟨[], rfl⟩
  | cons c cs ih =>
    obtain ⟨parts, h⟩ := ih
    rw [List.splitOnP_cons_eq_if_modifyHead]
    by_cases hc : c = '.'
    · simp [hc]
    · rw [if_neg (by simpa using hc), h]
      exact ⟨parts, by simp [hc]⟩

/-- A dotted path enters a mapping through its first part. -/
theorem exists_path_eq_cons (name : Text) :
    ∃ parts, (name.toList.splitOn (.char '.')).map Text.ofList = root name :: parts := by
  obtain ⟨parts, h⟩ := exists_splitOn_eq_cons name.toList
  exact ⟨parts.map .ofList, by rw [h, List.map_cons, root]⟩

theorem resolveName_congr (hname : lookup name entries = lookup name others)
    (hroot : lookup (root name) entries = lookup (root name) others) :
    resolveName entries name = resolveName others name := by
  obtain ⟨parts, hpath⟩ := exists_path_eq_cons name
  rw [resolveName, resolveName, hname, hpath]
  simp only [follow, hroot]

/-- Whether an entry stands under a text key. -/
def isUnder (name : Text) : Datum × Datum → Bool
  | (.string key, _) => key == name
  | _ => false

/-- The mapping with another entry under a text key, or with none. -/
def rebind (name : Text) (entry : Option Datum) (entries : List (Datum × Datum)) :
    List (Datum × Datum) :=
  entry.toList.map (.string name, ·) ++ entries.filter (!isUnder name ·)

theorem lookup_cons (name : Text) (e : Datum × Datum) (entries : List (Datum × Datum)) :
    lookup name (e :: entries) = if isUnder name e then some e.2 else lookup name entries := by
  obtain ⟨key, d⟩ := e
  cases key <;> simp [lookup, isUnder]

theorem isUnder_eq_false_of_ne {name key : Text} {e : Datum × Datum} (h : isUnder name e = true)
    (hne : key ≠ name) : isUnder key e = false := by
  obtain ⟨d, value⟩ := e
  cases d with
  | string other =>
    obtain rfl : other = name := by simpa [isUnder] using h
    simpa [isUnder] using hne.symm
  | _ => simp [isUnder] at h

theorem lookup_filter (name key : Text) (entries : List (Datum × Datum)) :
    lookup key (entries.filter (!isUnder name ·)) =
      if key = name then none else lookup key entries := by
  induction entries with
  | nil => simp [lookup]
  | cons e entries ih =>
    cases he : isUnder name e with
    | true =>
      rw [List.filter_cons_of_neg (by simp [he]), ih]
      split
      · rfl
      · next hne => rw [lookup_cons, isUnder_eq_false_of_ne he hne]; rfl
    | false =>
      rw [List.filter_cons_of_pos (by simp [he]), lookup_cons, lookup_cons, ih]
      by_cases hkey : key = name
      · subst hkey
        simp [he]
      · simp [hkey]

theorem lookup_rebind (name key : Text) (entry : Option Datum) (entries : List (Datum × Datum)) :
    lookup key (rebind name entry entries) = if key = name then entry else lookup key entries := by
  cases entry with
  | none => exact lookup_filter name key entries
  | some d =>
    rw [rebind, Option.toList_some, List.map_singleton, List.singleton_append, lookup_cons,
      lookup_filter]
    by_cases hkey : key = name
    · simp [isUnder, hkey]
    · simp [isUnder, hkey, Ne.symm hkey]

end Datum

/-- The registry with a name bound to another transform, or to none. -/
def Registry.rebind (r : Registry) (name : Text) : Option Transform → Registry
  | some t => r.insert name t
  | none => r.erase name

theorem Registry.find?_rebind (r : Registry) (name other : Text) (t : Option Transform) :
    (r.rebind name t).find? other = if other = name then t else r.find? other := by
  cases t with
  | some t => exact r.find?_insert name other t
  | none => exact r.find?_erase name other

/-! ### What a token reads -/

/-- The keys under which a mapping is asked for a token. -/
def Token.keys (t : Token) : List Text := [t.name, Datum.root t.name]

/-- The keys that an expression reads. -/
def Expression.keys (x : Expression) : List Text := x.tokens.flatMap Token.keys

/-- The names of the transforms that an expression calls. -/
def Expression.functions (x : Expression) : List Text := x.tokens.filterMap Token.function

namespace Template

/-- The tokens of a template; what is no text has none. -/
def tokensOf (d : Delimiter) (template : Datum) : List Token :=
  match template.word? with
  | some s => tokens d s.toList
  | none => []

/-- The keys that a template reads. -/
def keys (d : Delimiter) (template : Datum) : List Text :=
  (tokensOf d template).flatMap Token.keys

/-- The names of the transforms that a template calls. -/
def functions (d : Delimiter) (template : Datum) : List Text :=
  (tokensOf d template).filterMap Token.function

end Template

/-! ### Two contexts over mappings -/

/-- Two contexts over mappings that compare values alike. -/
structure Context.Over (entries others : List (Datum × Datum)) (a b : Context) : Prop where
  left : a.resolver = mappingResolver entries
  right : b.resolver = mappingResolver others
  compares : a.ComparesLike b

namespace Context.Over

variable {entries others : List (Datum × Datum)} {a b : Context}
  (h : Context.Over entries others a b)

include h

theorem nameValue_eq {t : Token}
    (hkeys : ∀ key ∈ t.keys, Datum.lookup key entries = Datum.lookup key others) :
    a.nameValue t.name = b.nameValue t.name := by
  have hdatum : Datum.resolveName entries t.name = Datum.resolveName others t.name :=
    Datum.resolveName_congr (hkeys _ (by simp [Token.keys])) (hkeys _ (by simp [Token.keys]))
  rw [nameValue, nameValue, h.left, h.right, mappingResolver, mappingResolver, hdatum]

theorem agreesOn {t : Token}
    (hkeys : ∀ key ∈ t.keys, Datum.lookup key entries = Datum.lookup key others)
    (hfunction : ∀ f ∈ t.function, a.registry.find? f = b.registry.find? f) : a.AgreesOn b t := by
  rw [agreesOn_iff, tokenValue, tokenValue, tokenCalls, tokenCalls, h.nameValue_eq hkeys]
  cases hf : t.function with
  | none => exact ⟨rfl, rfl⟩
  | some f =>
    have hfind := hfunction f hf
    simp only [Registry.image, Registry.imageCalls, hfind, and_self]

theorem agreesOn_of_mem {ts : List Token}
    (hkeys : ∀ key ∈ ts.flatMap Token.keys, Datum.lookup key entries = Datum.lookup key others)
    (hfunctions : ∀ f ∈ ts.filterMap Token.function, a.registry.find? f = b.registry.find? f) :
    ∀ t ∈ ts, a.AgreesOn b t := by
  intro t ht
  refine h.agreesOn (fun key hkey => hkeys key ?_) fun f hf => hfunctions f ?_
  · exact List.mem_flatMap.2 ⟨t, ht, hkey⟩
  · exact List.mem_filterMap.2 ⟨t, ht, hf⟩

theorem evaluate_agrees {x : Expression}
    (hkeys : ∀ key ∈ x.keys, Datum.lookup key entries = Datum.lookup key others)
    (hfunctions : ∀ f ∈ x.functions, a.registry.find? f = b.registry.find? f) :
    (x.evaluate a).Agrees (x.evaluate b) :=
  Expression.evaluate_agrees h.compares (h.agreesOn_of_mem hkeys hfunctions)

theorem render_agrees {d : Delimiter} {template : Datum}
    (hkeys : ∀ key ∈ Template.keys d template,
      Datum.lookup key entries = Datum.lookup key others)
    (hfunctions : ∀ f ∈ Template.functions d template, a.registry.find? f = b.registry.find? f) :
    (Template.render a d template).Agrees (Template.render b d template) := by
  have hall := h.agreesOn_of_mem hkeys hfunctions
  refine Template.render_agrees d fun s hs => ?_
  have htokens : Template.tokensOf d template = Template.tokens d s.toList := by
    rw [Datum.requireText] at hs
    rw [Template.tokensOf]
    cases hword : template.word? with
    | none => simp [hword] at hs
    | some word =>
      obtain rfl : word = s := by simpa [hword] using hs
      rfl
  rwa [htokens] at hall

end Context.Over

/-- A context over a mapping with one entry and one transform put in another's place, or
taken away. -/
def Context.rebind (entries : List (Datum × Datum)) (a : Context) (key : Text)
    (entry : Option Datum) (function : Text) (t : Option Transform) : Context :=
  { a with
    resolver := mappingResolver (Datum.rebind key entry entries)
    registry := a.registry.rebind function t }

theorem Context.over_rebind {entries : List (Datum × Datum)} {a : Context}
    (h : a.resolver = mappingResolver entries) (key : Text) (entry : Option Datum)
    (function : Text) (t : Option Transform) :
    Context.Over (Datum.rebind key entry entries) entries (a.rebind entries key entry function t) a
    where
  left := rfl
  right := h
  compares := ⟨rfl, rfl⟩

/-- Contexts that bind alike what an expression or a template names give it the same outcome
or text, or the same fault, by the same calls; so another entry or transform anywhere else,
or none, changes nothing. -/
theorem agrees_of_footprint (entries others : List (Datum × Datum)) (a b : Context)
    (h : Context.Over entries others a b) :
    (∀ x : Expression, (∀ key ∈ x.keys, Datum.lookup key entries = Datum.lookup key others) →
      (∀ f ∈ x.functions, a.registry.find? f = b.registry.find? f) →
      (x.evaluate a).Agrees (x.evaluate b)) ∧
    (∀ (d : Delimiter) (template : Datum),
      (∀ key ∈ Template.keys d template, Datum.lookup key entries = Datum.lookup key others) →
      (∀ f ∈ Template.functions d template, a.registry.find? f = b.registry.find? f) →
      (Template.render a d template).Agrees (Template.render b d template)) ∧
    ∀ (key : Text) (entry : Option Datum) (f : Text) (t : Option Transform),
      (∀ x : Expression, key ∉ x.keys → f ∉ x.functions →
        (x.evaluate (a.rebind entries key entry f t)).Agrees (x.evaluate a)) ∧
      ∀ (d : Delimiter) (template : Datum), key ∉ Template.keys d template →
        f ∉ Template.functions d template →
        (Template.render (a.rebind entries key entry f t) d template).Agrees
          (Template.render a d template) := by
  refine ⟨fun x => h.evaluate_agrees, fun d template => h.render_agrees, ?_⟩
  intro key entry f t
  have hover := Context.over_rebind h.left key entry f t
  have hkeys : ∀ ks : List Text, key ∉ ks → ∀ k ∈ ks,
      Datum.lookup k (Datum.rebind key entry entries) = Datum.lookup k entries := by
    intro ks hks k hk
    have hne : k ≠ key := by
      rintro rfl
      exact hks hk
    rw [Datum.lookup_rebind, if_neg hne]
  have hfunctions : ∀ fs : List Text, f ∉ fs → ∀ g ∈ fs,
      (a.registry.rebind f t).find? g = a.registry.find? g := by
    intro fs hfs g hg
    have hne : g ≠ f := by
      rintro rfl
      exact hfs hg
    rw [Registry.find?_rebind, if_neg hne]
  exact ⟨fun x hk hf => hover.evaluate_agrees (hkeys _ hk) (hfunctions _ hf),
    fun d template hk hf => hover.render_agrees (hkeys _ hk) (hfunctions _ hf)⟩

theorem agrees_of_footprint_nested_key :
    let name (k : Text) : Datum := .string k
    let nested : Datum := .mapping [(name "b", .number (.int 3))]
    let entries : List (Datum × Datum) := [(name "a", nested), (name "b", .null)]
    let others : List (Datum × Datum) := [(name "c.d", .boolean true), (name "a", nested)]
    let a : Context := ⟨mappingResolver entries, .builtins, .known .default, {}⟩
    let registry := Registry.empty.insert "string" ⟨"string", Builtin.string⟩
    let b : Context := ⟨mappingResolver others, registry, .known .default, {}⟩
    let x : Expression := .comparison (.token (name "\x7b\x7bstring(a.b)\x7d\x7d"))
      (name "==") (.literal (.string "3"))
    Context.Over entries others a b ∧ x.keys = (["a.b", "a"] : List Text) ∧
      x.functions = (["string"] : List Text) ∧
      (x.evaluate a).Agrees (x.evaluate b) := by
  intro name nested entries others a registry b x
  have hover : Context.Over entries others a b := ⟨rfl, rfl, rfl, rfl⟩
  have hkeys : x.keys = (["a.b", "a"] : List Text) := by
    simp only [x, Expression.keys, Expression.tokens]
    decide +kernel
  have hfunctions : x.functions = (["string"] : List Text) := by
    simp only [x, Expression.functions, Expression.tokens]
    decide +kernel
  refine ⟨hover, hkeys, hfunctions, (agrees_of_footprint entries others a b hover).1 x ?_ ?_⟩
  · rw [hkeys]
    simp [entries, others, name, Datum.lookup]
  · rw [hfunctions]
    intro f hf
    rw [List.mem_singleton.1 hf]
    rfl

end Verdict
