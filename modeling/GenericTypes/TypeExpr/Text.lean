import GenericTypes.TypeExpr.Basic

namespace GenericTypes.TypeExpr

variable {H : Type} [Handle H]

def boundsText (keyword : String) (bounds : List String) : String :=
  if bounds.isEmpty then "" else keyword ++ " & ".intercalate bounds

mutual

def text : TypeExpr H → String
  | nominal h => Handle.text h
  | parameterized owner raw args =>
    pathText owner raw ++ "<" ++ ",".intercalate (texts args) ++ ">"
  | wildcard upper lower =>
    "?" ++ boundsText " extends " (texts upper) ++ boundsText " super " (texts lower)
  | array component => text component ++ "[]"
  | intersection members => " & ".intercalate (texts members)
termination_by structural t => t

def pathText : Option (TypeExpr H) → H → String
  | none, raw => Handle.text raw
  | some owner, raw => text owner ++ "." ++ Handle.simpleName raw
termination_by structural owner => owner

def texts : List (TypeExpr H) → List String
  | [] => []
  | t :: rest => text t :: texts rest
termination_by structural ts => ts

end

theorem texts_eq_map (ts : List (TypeExpr H)) : texts ts = ts.map text := by
  induction ts with
  | nil => rfl
  | cons t rest ih => rw [texts, ih, List.map_cons]

end GenericTypes.TypeExpr
