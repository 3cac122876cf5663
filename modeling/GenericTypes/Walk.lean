namespace GenericTypes

inductive Flow where
  | proceed
  | stop
deriving DecidableEq, Repr

def Flow.ofBool (keepGoing : Bool) : Flow :=
  if keepGoing then .proceed else .stop

/-- How a walk ended. A walk is unfinished when it ran out of the steps it was given;
    everything before that point has been visited. -/
inductive Outcome where
  | completed
  | stopped
  | unfinished
deriving DecidableEq, Repr

/-- A visitor threads a state of its own, so its answers may depend on all it has seen. -/
abbrev Visitor (σ α : Type) := σ → α → σ × Flow

variable {σ α γ : Type}

namespace Outcome

def andThen (result : σ × Outcome) (next : σ → σ × Outcome) : σ × Outcome :=
  match result with
  | (s, .completed) => next s
  | (s, .stopped) => (s, .stopped)
  | (s, .unfinished) => (s, .unfinished)

def offer (visit : Visitor σ α) (s : σ) (a : α) : σ × Outcome :=
  match visit s a with
  | (s, .proceed) => (s, .completed)
  | (s, .stop) => (s, .stopped)

def forEach (step : σ → α → σ × Outcome) : List α → σ → σ × Outcome
  | [], s => (s, .completed)
  | a :: rest, s => andThen (step s a) (forEach step rest)

end Outcome

structure Walk (α : Type) where
  run : {σ : Type} → Visitor σ α → σ → σ × Outcome

namespace Walk

def append (first second : Walk α) : Walk α where
  run visit s := Outcome.andThen (first.run visit s) (second.run visit)

instance : Append (Walk α) := ⟨append⟩

def collect (walk : Walk α) (insert : γ → α → γ) (container : γ) : γ :=
  (walk.run (fun c a => (insert c a, .proceed)) container).1

def toList (walk : Walk α) : List α :=
  (walk.collect (fun acc a => a :: acc) []).reverse

def fold (walk : Walk α) (accumulate : Visitor γ α) (acc : γ) : γ :=
  (walk.run accumulate acc).1

/-- The outcome for a visitor that never stops. -/
def outcome (walk : Walk α) : Outcome :=
  (walk.run (fun (_ : Unit) _ => ((), .proceed)) ()).2

end Walk

end GenericTypes
