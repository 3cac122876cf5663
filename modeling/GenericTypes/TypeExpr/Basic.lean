import GenericTypes.Handle

namespace GenericTypes

/-- Arrays of nominal types are handles of the host; `array` is for structural components. -/
inductive TypeExpr (H : Type) where
  | nominal (handle : H)
  | parameterized (owner : Option (TypeExpr H)) (raw : H) (args : List (TypeExpr H))
  | wildcard (upper lower : List (TypeExpr H))
  | array (component : TypeExpr H)
  | intersection (members : List (TypeExpr H))
deriving Hashable

inductive Shape where
  | nominal
  | parameterized
  | wildcard
  | array
  | intersection
deriving DecidableEq, Repr

namespace Shape

def name : Shape → String
  | nominal => "nominal"
  | parameterized => "parameterized"
  | wildcard => "wildcard"
  | array => "array"
  | intersection => "intersection"

def rank : Shape → Nat
  | nominal => 0
  | parameterized => 1
  | wildcard => 2
  | array => 3
  | intersection => 4

end Shape

namespace TypeExpr

variable {H : Type}

mutual

def decEq [DecidableEq H] : (a b : TypeExpr H) → Decidable (a = b)
  | .nominal h, b => match b with
    | .nominal h' => decidable_of_iff (h = h') (by simp)
    | .parameterized .. | .wildcard .. | .array .. | .intersection .. => isFalse (by simp)
  | .parameterized owner raw args, b => match b with
    | .parameterized owner' raw' args' =>
      have := decEqOption owner owner'
      have := decEqList args args'
      decidable_of_iff (owner = owner' ∧ raw = raw' ∧ args = args') (by simp)
    | .nominal .. | .wildcard .. | .array .. | .intersection .. => isFalse (by simp)
  | .wildcard upper lower, b => match b with
    | .wildcard upper' lower' =>
      have := decEqList upper upper'
      have := decEqList lower lower'
      decidable_of_iff (upper = upper' ∧ lower = lower') (by simp)
    | .nominal .. | .parameterized .. | .array .. | .intersection .. => isFalse (by simp)
  | .array component, b => match b with
    | .array component' =>
      have := decEq component component'
      decidable_of_iff (component = component') (by simp)
    | .nominal .. | .parameterized .. | .wildcard .. | .intersection .. => isFalse (by simp)
  | .intersection members, b => match b with
    | .intersection members' =>
      have := decEqList members members'
      decidable_of_iff (members = members') (by simp)
    | .nominal .. | .parameterized .. | .wildcard .. | .array .. => isFalse (by simp)
termination_by structural a => a

def decEqOption [DecidableEq H] : (a b : Option (TypeExpr H)) → Decidable (a = b)
  | none, none => isTrue rfl
  | none, some _ => isFalse (by simp)
  | some _, none => isFalse (by simp)
  | some a, some b =>
    have := decEq a b
    decidable_of_iff (a = b) (by simp)
termination_by structural a => a

def decEqList [DecidableEq H] : (as bs : List (TypeExpr H)) → Decidable (as = bs)
  | [], [] => isTrue rfl
  | [], _ :: _ => isFalse (by simp)
  | _ :: _, [] => isFalse (by simp)
  | a :: as, b :: bs =>
    match decEq a b with
    | isFalse differ => isFalse (by simp [differ])
    | isTrue same =>
      have := decEqList as bs
      decidable_of_iff (as = bs) (by simp [same])
termination_by structural as => as

end

instance [DecidableEq H] : DecidableEq (TypeExpr H) := decEq

def shape : TypeExpr H → Shape
  | nominal .. => .nominal
  | parameterized .. => .parameterized
  | wildcard .. => .wildcard
  | array .. => .array
  | intersection .. => .intersection

def unbounded : TypeExpr H := wildcard [] []

/-- The handle that a node names itself: a nominal type, or the raw type of an instantiation. -/
def handle? : TypeExpr H → Option H
  | nominal h => some h
  | parameterized _ raw _ => some raw
  | wildcard .. | array .. | intersection .. => none

/-- Direct parts in definition order: the owner before the arguments, upper before lower bounds. -/
def children : TypeExpr H → List (TypeExpr H)
  | nominal _ => []
  | parameterized owner _ args => owner.toList ++ args
  | wildcard upper lower => upper ++ lower
  | array component => [component]
  | intersection members => members

end TypeExpr

end GenericTypes
