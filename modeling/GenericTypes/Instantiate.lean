import GenericTypes.Host
import GenericTypes.TypeExpr.Text

namespace GenericTypes

inductive InstantiationError (H : Type) where
  | argumentCountMismatch (raw : H) (expected actual : Nat)
  | ownerMismatch (raw : H) (enclosing : Option H) (owner : TypeExpr H)
  /-- The owner is no instantiation. -/
  | unsupportedOwner (raw : H) (owner : TypeExpr H)
deriving DecidableEq

variable {H : Type}

namespace InstantiationError

def raw : InstantiationError H → H
  | argumentCountMismatch raw _ _ => raw
  | ownerMismatch raw _ _ => raw
  | unsupportedOwner raw _ => raw

variable [Handle H]

def message : InstantiationError H → String
  | argumentCountMismatch raw expected actual =>
    "type parameter count mismatch of " ++ Handle.text raw ++ ": " ++ toString actual ++
      " vs " ++ toString expected
  | ownerMismatch raw _ owner =>
    "owner " ++ owner.text ++ " doesn't match the enclosing type of " ++ Handle.text raw
  | unsupportedOwner raw owner =>
    "unknown owner type " ++ owner.text ++ " of " ++ Handle.text raw

end InstantiationError

namespace Host

/-- The array over a component. A nominal component gives the host's own array type. -/
def arrayOf (host : Host H) : TypeExpr H → TypeExpr H
  | .nominal h => .nominal (host.arrayHandle h)
  | component => .array component

variable [DecidableEq H]

/-- The owner of an instantiation: by default the enclosing type, if there is one. A given owner
    has to instantiate the enclosing type. -/
def resolveOwner (host : Host H) (raw : H) :
    Option (TypeExpr H) → Except (InstantiationError H) (Option (TypeExpr H))
  | none => .ok ((host.enclosing raw).map .nominal)
  | some (.parameterized outerOwner outer outerArgs) =>
    let owner := .parameterized outerOwner outer outerArgs
    if host.enclosing raw = some outer then .ok (some owner)
    else .error (.ownerMismatch raw (host.enclosing raw) owner)
  | some owner => .error (.unsupportedOwner raw owner)

def instantiateIn (host : Host H) (owner : Option (TypeExpr H)) (raw : H)
    (args : List (TypeExpr H)) : Except (InstantiationError H) (TypeExpr H) :=
  let expected := host.arity raw
  if args.length ≠ expected then
    .error (.argumentCountMismatch raw expected args.length)
  else
    (host.resolveOwner raw owner).map (.parameterized · raw args)

/-- An instantiation with the default owner. Without arguments it is the raw type itself, which is
    not checked. -/
def instantiate (host : Host H) (raw : H) (args : List (TypeExpr H)) :
    Except (InstantiationError H) (TypeExpr H) :=
  if args.isEmpty then .ok (.nominal raw) else host.instantiateIn none raw args

end Host

end GenericTypes
