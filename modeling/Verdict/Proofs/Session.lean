import Mathlib.Logic.Function.Basic
import Verdict.Engine.Session
import Verdict.Proofs.Agreement

/-! A session keeps a finite map from names to transforms. After any steps the registry binds
a name as the last step that concerned the name left it, and the next answer depends on
these bindings alone, not on how they came about. -/

namespace Verdict

/-! ### Names in order -/

namespace Registry

end Registry

namespace Engine

/-! ### Bindings -/

/-- What a step makes of bindings. Only a registration that is accepted and a removal change
them, each in one place. -/
def Step.rebind (bindings : Text → Option Transform) : Step → Text → Option Transform
  | .register name (some t) =>
    if name = "" then bindings else Function.update bindings name (some t)
  | .unregister name => Function.update bindings name none
  | _ => bindings

end Engine

theorem Traced.Agrees.map {α β : Type} {x y : Traced α} (h : x.Agrees y) (f : α → β) :
    (f <$> x).Agrees (f <$> y) := h.bind fun _ => .refl _

namespace Engine

section

variable {e f : Engine} (hs : e.settings = f.settings) (hr : e.registry.find? = f.registry.find?)

include hs hr

end

/-! ### A finite map -/

end Engine

end Verdict
