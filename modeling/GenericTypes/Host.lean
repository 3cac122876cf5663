namespace GenericTypes

/-- What is known about every handle. The root is the apex of the classes; unless a host says
    otherwise, it is any type without a superclass that is not an interface. -/
structure Host (H : Type) where
  isInterface : H → Bool
  superclass : H → Option H
  interfaces : H → List H
  enclosing : H → Option H
  arity : H → Nat
  arrayHandle : H → H
  isRoot : H → Bool := fun h => !isInterface h && (superclass h).isNone

variable {H : Type}

def Host.isProperClass (host : Host H) (h : H) : Bool :=
  !host.isInterface h && !host.isRoot h

end GenericTypes
