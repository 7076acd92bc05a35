import Verdict.Expression
import Verdict.Settings
import Verdict.Template
import Verdict.Transform.Builtin

/-! The engine: settings and a registry. It builds a fresh context for every call, so
nothing carries over from one evaluation to the next. -/

namespace Verdict

structure Engine where
  settings : Settings
  registry : Registry

namespace Engine

/-- An engine on a registry, or on the built-in transforms if the settings want them. -/
def ofSettings (settings : Settings) (registry : Option Registry) : Engine where
  settings := settings
  registry := registry.getD (if settings.registerBuiltins then .builtins else .empty)

/-- The context of one call; an option that is not given is that of the settings. -/
def contextFor (e : Engine) (values : Values) (option : Datum) : Except Fault Context :=
  let option := if option.isGiven then option else .symbol (.option e.settings.comparisonOption)
  Context.build values e.registry option e.settings.policy

/-- The record of an outcome. -/
def outcomeRecord (o : Outcome) : Record where
  level := .debug
  source := .engine
  message := match o with
    | .success => "Expression succeeded"
    | .failure reason _ => "Expression failed: " ++ reason
  details := match o with
    | .success => []
    | .failure _ type => [(.failureType, type.text)]
  cause := none

def evaluate (e : Engine) (x : Expression) (values : Values) (option : Datum) : Traced Outcome := do
  let ctx ← .ofExcept (e.contextFor values option)
  let o ← x.evaluate ctx
  .emit (.record (outcomeRecord o))
  return o

/-- The value of token text. -/
def resolve (e : Engine) (text : Datum) (values : Values) : Traced Value := do
  let ctx ← .ofExcept (e.contextFor values .null)
  (Operand.token text).resolve ctx

def render (e : Engine) (template : Datum) (values : Values) : Traced Text := do
  let ctx ← .ofExcept (e.contextFor values .null)
  Template.render ctx .default template

def register (e : Engine) (name : Text) (t : Option Transform) : Except Fault Engine := do
  return { e with registry := ← e.registry.register name t }

/-- Unbinds a name and says whether it was bound. -/
def unregister (e : Engine) (name : Text) : Bool × Engine :=
  let (bound, registry) := e.registry.unregister name
  (bound, { e with registry })

end Engine

/-- Evaluates an expression with default settings. -/
def evaluateCondition (x : Expression) (values : Values) (registry : Option Registry)
    (option : Datum) : Traced Outcome :=
  (Engine.ofSettings {} registry).evaluate x values option

end Verdict
