import Verdict.Datum

/-! What an evaluation does besides giving an answer: it asks the resolver, calls
transforms and leaves records. All of it is one list of events in order, kept also
when the evaluation stops with a fault. -/

namespace Verdict

/-! ### Records -/

inductive Level where
  | debug | warning
  deriving DecidableEq

/-- The part of the library that a record comes from. -/
inductive Source where
  | comparison | context | transforms | expressions | engine
  deriving DecidableEq

/-- What a record can name besides its message. -/
inductive Detail where
  | token | transform | operator | failureType
  deriving DecidableEq

namespace Level

def text : Level → Text
  | .debug => "DEBUG"
  | .warning => "WARNING"

end Level

namespace Source

def text : Source → Text
  | .comparison => "condition_engine.rules.comparison"
  | .context => "condition_engine.rules.context"
  | .transforms => "condition_engine.rules.transforms"
  | .expressions => "condition_engine.rules.expressions"
  | .engine => "condition_engine.engine"

end Source

namespace Detail

def text : Detail → Text
  | .token => "token"
  | .transform => "transform"
  | .operator => "operator"
  | .failureType => "failure_type"

end Detail

structure Record where
  level : Level
  source : Source
  message : Text
  details : List (Detail × Text)
  /-- The contained fault that the record reports. -/
  cause : Option Fault
  deriving DecidableEq

/-! ### Events -/

inductive Event where
  /-- The resolver was asked for a name. -/
  | lookup (name : Text)
  /-- The function with this label, registered under this name, was called. -/
  | call (name label : Text) (argument : Datum)
  | record (r : Record)

namespace Event

/-- Whether the resolver was asked or a transform called. -/
def isCall : Event → Bool
  | .lookup _ | .call .. => true
  | .record _ => false

def record? : Event → Option Record
  | .record r => some r
  | .lookup _ | .call .. => none

end Event

/-- A computation with the events on its way and the answer or the fault that ended it. -/
structure Traced (α : Type) where
  events : List Event
  outcome : Except Fault α

namespace Traced

variable {α β : Type}

def bind (x : Traced α) (f : α → Traced β) : Traced β :=
  match x.outcome with
  | .ok a => ⟨x.events ++ (f a).events, (f a).outcome⟩
  | .error e => ⟨x.events, .error e⟩

instance : Monad Traced where
  pure a := ⟨[], .ok a⟩
  bind := bind

/-- What was asked and called, in order. -/
def calls (x : Traced α) : List Event := x.events.filter Event.isCall

/-- The records left, in order. -/
def records (x : Traced α) : List Record := x.events.filterMap Event.record?

/-- A computation without events. -/
def ofExcept (x : Except Fault α) : Traced α := ⟨[], x⟩

def emit (e : Event) : Traced Unit := ⟨[e], .ok ()⟩

@[simp] theorem pure_events (a : α) : (pure a : Traced α).events = [] := rfl

@[simp] theorem pure_outcome (a : α) : (pure a : Traced α).outcome = .ok a := rfl

theorem bind_of_ok {x : Traced α} {f : α → Traced β} {a : α} (h : x.outcome = .ok a) :
    (x >>= f) = ⟨x.events ++ (f a).events, (f a).outcome⟩ := by
  show bind x f = _
  simp [bind, h]

theorem bind_of_error {x : Traced α} {f : α → Traced β} {e : Fault} (h : x.outcome = .error e) :
    (x >>= f) = ⟨x.events, .error e⟩ := by
  show bind x f = _
  simp [bind, h]

theorem calls_bind_of_ok {x : Traced α} {f : α → Traced β} {a : α} (h : x.outcome = .ok a) :
    (x >>= f).calls = x.calls ++ (f a).calls := by
  simp [calls, bind_of_ok h]

theorem records_bind_of_ok {x : Traced α} {f : α → Traced β} {a : α} (h : x.outcome = .ok a) :
    (x >>= f).records = x.records ++ (f a).records := by
  simp [records, bind_of_ok h]

theorem calls_bind_of_error {x : Traced α} {f : α → Traced β} {e : Fault}
    (h : x.outcome = .error e) : (x >>= f).calls = x.calls := by
  simp [calls, bind_of_error h]

theorem outcome_bind_of_ok {x : Traced α} {f : α → Traced β} {a : α} (h : x.outcome = .ok a) :
    (x >>= f).outcome = (f a).outcome := by
  rw [bind_of_ok h]

theorem outcome_bind_of_error {x : Traced α} {f : α → Traced β} {e : Fault}
    (h : x.outcome = .error e) : (x >>= f).outcome = .error e := by
  rw [bind_of_error h]

/-- A function on the answer changes nothing else. -/
theorem outcome_bind_pure (x : Traced α) (f : α → β) :
    (x >>= fun a => pure (f a)).outcome = x.outcome.map f := by
  cases h : x.outcome with
  | error e => exact outcome_bind_of_error h
  | ok a => exact outcome_bind_of_ok h

@[simp] theorem pure_calls (a : α) : (pure a : Traced α).calls = [] := rfl

@[simp] theorem ofExcept_outcome (x : Except Fault α) : (ofExcept x).outcome = x := rfl

@[simp] theorem ofExcept_calls (x : Except Fault α) : (ofExcept x).calls = [] := rfl

@[simp] theorem emit_bind_outcome (e : Event) (f : Unit → Traced β) :
    (emit e >>= f).outcome = (f ()).outcome := outcome_bind_of_ok rfl

theorem emit_bind_calls (e : Event) (f : Unit → Traced β) :
    (emit e >>= f).calls = if e.isCall then e :: (f ()).calls else (f ()).calls := by
  rw [calls_bind_of_ok (a := ()) rfl, calls, emit, List.filter_cons]
  split <;> simp

theorem id_map (x : Traced α) : id <$> x = x := by
  obtain ⟨events, outcome⟩ := x
  cases outcome <;> simp [Functor.map, bind]

theorem pure_bind (a : α) (f : α → Traced β) : (pure a >>= f) = f a := by
  simp [Bind.bind, bind]

theorem bind_assoc {γ : Type} (x : Traced α) (f : α → Traced β) (g : β → Traced γ) :
    (x >>= f >>= g) = x >>= fun a => f a >>= g := by
  obtain ⟨events, outcome⟩ := x
  cases outcome with
  | error e => simp [Bind.bind, bind]
  | ok a => cases h : (f a).outcome <;> simp [Bind.bind, bind, h]

instance : LawfulMonad Traced := .mk' _ id_map pure_bind bind_assoc

theorem calls_map (f : α → β) (x : Traced α) : (f <$> x).calls = x.calls := by
  cases h : x.outcome with
  | error e => exact calls_bind_of_error h
  | ok a => exact (calls_bind_of_ok h).trans (List.append_nil _)

theorem outcome_map (f : α → β) (x : Traced α) : (f <$> x).outcome = x.outcome.map f :=
  outcome_bind_pure x f

theorem outcome_map_fault_iff (f : α → β) (x : Traced α) (fault : Fault) :
    (f <$> x).outcome = .error fault ↔ x.outcome = .error fault := by
  rw [outcome_map]
  cases x.outcome <;> simp [Except.map]

end Traced

end Verdict
