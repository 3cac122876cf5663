import GenericTypes.TypeExpr.Basic

namespace GenericTypes.TypeExpr

variable {H : Type} [Handle H]

/-- The hash of a list of hashes: from 1, times 31 plus the next hash. -/
def sequenceHash (hashes : List Int32) : Int32 :=
  hashes.foldl (fun hash next => 31 * hash + next) 1

mutual

/-- An absent owner counts as zero, and an array has the code of its component. -/
def hashCode : TypeExpr H → Int32
  | nominal h => Handle.hashCode h
  | parameterized owner raw args =>
    sequenceHash (hashCodes args) ^^^ ownerHash owner ^^^ Handle.hashCode raw
  | wildcard upper lower => sequenceHash (hashCodes lower) ^^^ sequenceHash (hashCodes upper)
  | array component => hashCode component
  | intersection members => sequenceHash (hashCodes members)
termination_by structural t => t

def ownerHash : Option (TypeExpr H) → Int32
  | none => 0
  | some owner => hashCode owner
termination_by structural owner => owner

def hashCodes : List (TypeExpr H) → List Int32
  | [] => []
  | t :: rest => hashCode t :: hashCodes rest
termination_by structural ts => ts

end

theorem hashCodes_eq_map (ts : List (TypeExpr H)) : hashCodes ts = ts.map hashCode := by
  induction ts with
  | nil => rfl
  | cons t rest ih => rw [hashCodes, ih, List.map_cons]

end GenericTypes.TypeExpr
