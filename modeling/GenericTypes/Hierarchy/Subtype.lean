import GenericTypes.Hierarchy.Chain
import GenericTypes.Hierarchy.Lattice

namespace GenericTypes.Host

variable {H : Type} [DecidableEq H]

def seek (target : H) : Visitor Unit H :=
  fun _ h => ((), .ofBool (h ≠ target))

/-- Searches a class and what is above it. All the lattices share one record: what an earlier one
    has covered without a match need not be searched again. -/
def searchAbove (host : Host H) (target : H) (bound : Nat) :
    (steps : Nat) → Visited H → Option H → Outcome
  | _, _, none => .completed
  | 0, _, some _ => .unfinished
  | steps + 1, seen, some h =>
    if !host.isProperClass h then .completed
    else if h = target then .stopped
    else
      match host.latticeFrom (seek target) bound h false ((), seen) with
      | ((_, seen), .completed) => host.searchAbove target bound steps seen (host.superclass h)
      | (_, ended) => ended

def subtypeSearch (host : Host H) (bound : Nat) (sub sup : H) : Outcome :=
  if sub = sup || host.isRoot sup then .stopped
  else if host.isInterface sub then
    (host.latticeFrom (seek sup) bound sub false ((), .empty)).2
  else
    host.searchAbove sup bound bound .empty (some sub)

def isSubtype (host : Host H) (bound : Nat) (sub sup : H) : Bool :=
  host.subtypeSearch bound sub sup = .stopped

end GenericTypes.Host
