import Verdict.Engine

/-! Sessions: steps taken one after another on one engine. Steps that change the registry
hand their engine on to the next step. -/

namespace Verdict.Engine

/-- What can be asked of an engine. -/
inductive Step where
  /-- To bind a name; `none` stands for anything that is not a function. -/
  | register (name : Text) (t : Option Transform)
  | unregister (name : Text)
  | names
  | evaluate (x : Expression) (values : Values) (option : Datum)
  | resolve (text : Datum) (values : Values)
  | render (template : Datum) (values : Values)

inductive Answer where
  | done
  | bound (b : Bool)
  | names (ns : List Text)
  | outcome (o : Outcome)
  | value (v : Value)
  | text (s : Text)

/-- Takes a step. A registration that is refused leaves the engine as it is. -/
def step (e : Engine) : Step → Engine × Traced Answer
  | .register name t =>
    match e.register name t with
    | .ok next => (next, return .done)
    | .error fault => (e, .ofExcept (.error fault))
  | .unregister name =>
    let (bound, next) := e.unregister name
    (next, return .bound bound)
  | .names => (e, return .names e.registry.names)
  | .evaluate x values option => (e, .outcome <$> e.evaluate x values option)
  | .resolve text values => (e, .value <$> e.resolve text values)
  | .render template values => (e, .text <$> e.render template values)

/-- Takes steps in order and collects their answers. -/
def run (e : Engine) : List Step → Engine × List (Traced Answer)
  | [] => (e, [])
  | s :: steps =>
    let (next, answer) := e.step s
    let (last, answers) := next.run steps
    (last, answer :: answers)

end Verdict.Engine
