import GenericTypes.TypeExpr.Basic
import GenericTypes.Walk
import GenericTypes.Walk.Visited

namespace GenericTypes.TypeExpr

variable {H σ : Type}

theorem sizeOf_append (left right : List (TypeExpr H)) :
    sizeOf (left ++ right) + 1 = sizeOf left + sizeOf right := by
  induction left with
  | nil => simp; omega
  | cons t rest ih => simp; omega

theorem sizeOf_children (t : TypeExpr H) : sizeOf t.children ≤ sizeOf t + 1 := by
  cases t with
  | nominal h => simp [children]
  | parameterized owner raw args => cases owner <;> simp [children] <;> omega
  | wildcard upper lower =>
    have total := sizeOf_append upper lower
    simp [children]
    omega
  | array component => simp [children]
  | intersection members => simp [children]; omega

/-- The stack holds the expressions still to be visited, the next one first. -/
def visitStack (visit : Visitor σ (TypeExpr H)) (s : σ) : List (TypeExpr H) → σ × Outcome
  | [] => (s, .completed)
  | t :: rest =>
    match visit s t with
    | (s, .stop) => (s, .stopped)
    | (s, .proceed) => visitStack visit s (t.children ++ rest)
termination_by stack => sizeOf stack
decreasing_by
  have total := sizeOf_append t.children rest
  have bound := sizeOf_children t
  simp
  omega

def walk (t : TypeExpr H) : Walk (TypeExpr H) where
  run visit s := visitStack visit s [t]

def size (t : TypeExpr H) : Nat :=
  t.walk.collect (fun count _ => count + 1) 0

/-- Every handle the tree names, in pre-order, first occurrence only. -/
def mentions [DecidableEq H] (t : TypeExpr H) : List H :=
  let record (named : Visited H) (t : TypeExpr H) : Visited H :=
    match t.handle? with
    | some h => (named.record h).2
    | none => named
  (t.walk.collect record .empty).handles.reverse

end GenericTypes.TypeExpr
