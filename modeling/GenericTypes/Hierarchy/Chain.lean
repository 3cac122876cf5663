import GenericTypes.Host
import GenericTypes.Walk

namespace GenericTypes.Host

variable {H σ : Type}

/-- Climbs from the given class for at most `steps` classes. The chain ends at the root, at an
    interface, and where there is no superclass. -/
def climb (host : Host H) (visit : Visitor σ H) : (steps : Nat) → σ → Option H → σ × Outcome
  | _, s, none => (s, .completed)
  | 0, s, some _ => (s, .unfinished)
  | steps + 1, s, some h =>
    if host.isProperClass h then
      Outcome.andThen (Outcome.offer visit s h) fun s =>
        host.climb visit steps s (host.superclass h)
    else
      (s, .completed)

def superclassChain (host : Host H) (bound : Nat) (start : H) (includeSelf : Bool) : Walk H where
  run visit s :=
    let first :=
      if includeSelf then some start
      else if host.isProperClass start then host.superclass start
      else none
    host.climb visit bound s first

end GenericTypes.Host
