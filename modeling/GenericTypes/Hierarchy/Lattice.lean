import GenericTypes.Host
import GenericTypes.Walk
import GenericTypes.Walk.Visited

namespace GenericTypes.Host

variable {H σ : Type}

def beside (visit : Visitor σ H) : Visitor (σ × Visited H) H :=
  fun (s, seen) h =>
    let (s, flow) := visit s h
    ((s, seen), flow)

variable [DecidableEq H]

/-- Visits what lies above a handle, at most `depth` levels deep. A handle is recorded before what
    lies above it is visited, so a cycle ends where it closes. -/
def visitAbove (host : Host H) (visit : Visitor σ H) :
    (depth : Nat) → σ × Visited H → H → (σ × Visited H) × Outcome
  | 0, state, _ => (state, .unfinished)
  | depth + 1, state, h =>
    Outcome.forEach
      (fun (s, seen) interface =>
        match seen.record interface with
        | (false, seen) => ((s, seen), .completed)
        | (true, seen) =>
          Outcome.andThen (Outcome.offer (beside visit) (s, seen) interface) fun state =>
            host.visitAbove visit depth state interface)
      (host.interfaces h) state

def latticeFrom (host : Host H) (visit : Visitor σ H) (bound : Nat) (start : H)
    (includeSelf : Bool) (state : σ × Visited H) : (σ × Visited H) × Outcome :=
  if host.isRoot start then
    (state, .completed)
  else if includeSelf && host.isInterface start then
    let seen := (state.2.record start).2
    Outcome.andThen (Outcome.offer (beside visit) (state.1, seen) start) fun state =>
      host.visitAbove visit bound state start
  else
    host.visitAbove visit bound state start

/-- The start itself is visited only if it is an interface; the root has no lattice. -/
def interfaceLattice (host : Host H) (bound : Nat) (start : H) (includeSelf : Bool) : Walk H where
  run visit s :=
    let ((s, _), outcome) := host.latticeFrom visit bound start includeSelf (s, .empty)
    (s, outcome)

end GenericTypes.Host
