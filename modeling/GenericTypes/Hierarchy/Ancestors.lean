import GenericTypes.Hierarchy.Chain
import GenericTypes.Hierarchy.Lattice

namespace GenericTypes

variable {H : Type} [DecidableEq H]

/-- For a class, its chain and then the lattice of the interfaces it declares itself; for an
    interface, its lattice. -/
def Host.ancestors (host : Host H) (bound : Nat) (start : H) (includeSelf : Bool) : Walk H :=
  if host.isInterface start then
    host.interfaceLattice bound start includeSelf
  else
    host.superclassChain bound start includeSelf ++ host.interfaceLattice bound start false

inductive Lineage where
  | chain
  | lattice
  | all
deriving DecidableEq, Repr

def Host.lineage (host : Host H) (bound : Nat) (start : H) (includeSelf : Bool) :
    Lineage → Walk H
  | .chain => host.superclassChain bound start includeSelf
  | .lattice => host.interfaceLattice bound start includeSelf
  | .all => host.ancestors bound start includeSelf

end GenericTypes
