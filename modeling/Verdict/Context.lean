import Verdict.Token
import Verdict.Transform

/-! The surroundings of one evaluation: who answers for names, which transforms there
are, how strings compare, and which kinds may be reconciled. -/

namespace Verdict

/-- Answers for the names in tokens; it may raise. -/
abbrev Resolver := Text → Except Fault Datum

/-- Which values of different kinds are compared before a mismatch is reported. -/
structure Policy where
  numericStrings : Bool := true
  booleanStrings : Bool := true
  absentEqualsAbsent : Bool := false
  deriving DecidableEq

/-! ### Names in mappings -/

namespace Datum

/-- Follows keys downward. What is not a mapping, lacks the key or is null ends the walk. -/
def follow (d : Datum) : List Text → Datum
  | [] => d
  | part :: parts =>
    match d with
    | .mapping entries =>
      match lookup part entries with
      | some next => next.follow parts
      | none => .null
    | _ => .null

/-- The entry under a name: the exact key if there is one, else the end of the dotted path. -/
def resolveName (entries : List (Datum × Datum)) (name : Text) : Datum :=
  match lookup name entries with
  | some d => d
  | none => (Datum.mapping entries).follow ((name.toList.splitOn (.char '.')).map .ofList)

end Datum

def mappingResolver (entries : List (Datum × Datum)) : Resolver :=
  fun name => .ok (Datum.resolveName entries name)

/-! ### Contexts -/

/-- A way to compare strings: a known one, or whatever else was given, kept as it is. -/
inductive OptionChoice where
  | known (o : ComparisonOption)
  | kept (given : Datum)

namespace OptionChoice

/-- Texts are read as option names, in any case and with blanks around. -/
def ofDatum (d : Datum) : OptionChoice :=
  match d.word?.bind ComparisonOption.ofWord? with
  | some o => .known o
  | none => .kept d

end OptionChoice

structure Context where
  resolver : Resolver
  registry : Registry
  option : OptionChoice
  policy : Policy

/-- Where the values of a context come from. -/
inductive Values where
  | data (d : Datum)
  | resolver (f : Resolver)

namespace Context

/-- A context from loose parts. An option that is not given is the default one. -/
def build (values : Values) (registry : Registry) (option : Datum) (policy : Policy) :
    Except Fault Context := do
  let resolver ← match values with
    | .data (.mapping entries) => .ok (mappingResolver entries)
    | .data d => .error (.notValues d.kind)
    | .resolver f => .ok f
  let option := if option.isGiven then OptionChoice.ofDatum option else .known .default
  return { resolver, registry, option, policy }

def ignoresCase (ctx : Context) : Bool :=
  match ctx.option with
  | .known .caseInsensitive => true
  | _ => false

/-- The value of a name. A resolver that raises gives the absent value and a warning. -/
def resolve (ctx : Context) (name : Text) : Traced Value := do
  .emit (.lookup name)
  match ctx.resolver name with
  | .ok d => return d.toValue
  | .error fault =>
    .emit (.record {
      level := .warning, source := .context
      message := "Resolver failed for token '" ++ name ++ "'"
      details := [(.token, name)], cause := some fault })
    return .absent

/-- The value of a token: that of its name, passed through its transform if it has one. -/
def resolveToken (ctx : Context) (t : Token) : Traced Value := do
  let v ← ctx.resolve t.name
  match t.function with
  | some function => ctx.registry.apply function v
  | none => return v

end Context

end Verdict
