import Chip8.Error
import Chip8.Event

namespace Chip8

structure Outcome (σ α : Type) where
  answer : Except Error α
  state : σ
  events : Array Event

namespace Outcome

variable {σ τ α β : Type}

def done (state : σ) (value : α) (events : Array Event) : Outcome σ α := ⟨.ok value, state, events⟩

def stopped (state : σ) (error : Error) (events : Array Event) : Outcome σ α :=
  ⟨.error error, state, events⟩

def after (events : Array Event) (o : Outcome σ α) : Outcome σ α :=
  { o with events := events ++ o.events }

def andThen (o : Outcome σ α) (next : α → σ → Outcome σ β) : Outcome σ β :=
  match o.answer with
  | .ok value => (next value o.state).after o.events
  | .error error => stopped o.state error o.events

def within (o : Outcome τ α) (put : τ → σ) : Outcome σ α := ⟨o.answer, put o.state, o.events⟩

/-- Repeats an operation `count` times, or until it is stopped. -/
def iterate (step : σ → Outcome σ Unit) : Nat → Outcome σ Unit → Outcome σ Unit
  | 0, o => o
  | count + 1, o =>
    match o.answer with
    | .ok () => iterate step count ((step o.state).after o.events)
    | .error _ => o

@[specialize]
def iterateM {m : Type → Type} [Monad m] (step : σ → m (Outcome σ Unit)) :
    Nat → Outcome σ Unit → m (Outcome σ Unit)
  | 0, o => pure o
  | count + 1, o =>
    match o.answer with
    | .ok () => do iterateM step count ((← step o.state).after o.events)
    | .error _ => pure o

end Outcome
end Chip8
