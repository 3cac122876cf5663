import GenericTypes.TypeExpr.Preorder

namespace GenericTypes.TypeExpr

variable {H : Type}

theorem nominal_or_structural (t : TypeExpr H) :
    (∃ h, t = nominal h) ∨ ∀ h, t ≠ nominal h := by
  cases t with
  | nominal h => exact .inl ⟨h, rfl⟩
  | parameterized | wildcard | array | intersection => exact .inr nofun

mutual

def nodes : TypeExpr H → List (TypeExpr H)
  | nominal h => [nominal h]
  | parameterized owner raw args =>
    parameterized owner raw args :: (ownerNodes owner ++ partNodes args)
  | wildcard upper lower => wildcard upper lower :: (partNodes upper ++ partNodes lower)
  | array component => array component :: nodes component
  | intersection members => intersection members :: partNodes members
termination_by structural t => t

def ownerNodes : Option (TypeExpr H) → List (TypeExpr H)
  | none => []
  | some owner => nodes owner
termination_by structural owner => owner

def partNodes : List (TypeExpr H) → List (TypeExpr H)
  | [] => []
  | t :: rest => nodes t ++ partNodes rest
termination_by structural ts => ts

end

theorem partNodes_eq_flatMap (ts : List (TypeExpr H)) : partNodes ts = ts.flatMap nodes := by
  induction ts with
  | nil => rfl
  | cons t rest ih => rw [partNodes, ih, List.flatMap_cons]

theorem nodes_eq (t : TypeExpr H) : t.nodes = t :: t.children.flatMap nodes := by
  cases t with
  | nominal h => rfl
  | parameterized owner raw args =>
    cases owner <;> simp [nodes, ownerNodes, children, partNodes_eq_flatMap]
  | wildcard upper lower => simp [nodes, children, partNodes_eq_flatMap]
  | array component => simp [nodes, children]
  | intersection members => simp [nodes, children, partNodes_eq_flatMap]

/-- A nominal type names its handle, and an instantiation its raw type. -/
def Names (node : TypeExpr H) (h : H) : Prop :=
  node = nominal h ∨ ∃ owner args, node = parameterized owner h args

theorem handle?_eq_some_iff {node : TypeExpr H} {h : H} :
    node.handle? = some h ↔ node.Names h := by
  unfold Names
  cases node <;> simp [handle?]

theorem Names.unique {node : TypeExpr H} {h other : H} (names : node.Names h)
    (also : node.Names other) : other = h := by
  rw [← handle?_eq_some_iff] at names also
  rw [names] at also
  exact (Option.some.inj also).symm

def Throughout (P : TypeExpr H → Prop) (t : TypeExpr H) : Prop :=
  ∀ node ∈ t.nodes, P node

theorem throughout_iff {P : TypeExpr H → Prop} {t : TypeExpr H} :
    t.Throughout P ↔ P t ∧ ∀ child ∈ t.children, child.Throughout P := by
  unfold Throughout
  rw [t.nodes_eq, List.forall_mem_cons]
  refine and_congr_right fun _ => ?_
  simp only [List.mem_flatMap]
  constructor
  · intro holds child member node inside
    exact holds node ⟨child, member, inside⟩
  · intro holds node part
    obtain ⟨child, member, inside⟩ := part
    exact holds child member node inside

theorem sizeOf_lt_of_mem_children {t child : TypeExpr H} (member : child ∈ t.children) :
    sizeOf child < sizeOf t := by
  cases t with
  | nominal h => cases member
  | parameterized owner raw args =>
    rcases List.mem_append.mp member with isOwner | isArg
    · rw [Option.mem_toList] at isOwner
      cases isOwner
      simp only [parameterized.sizeOf_spec, Option.some.sizeOf_spec]
      omega
    · have smaller := List.sizeOf_lt_of_mem isArg
      simp only [parameterized.sizeOf_spec]
      omega
  | wildcard upper lower =>
    simp only [wildcard.sizeOf_spec]
    rcases List.mem_append.mp member with isUpper | isLower
    · have smaller := List.sizeOf_lt_of_mem isUpper
      omega
    · have smaller := List.sizeOf_lt_of_mem isLower
      omega
  | array component =>
    obtain rfl := List.mem_singleton.mp member
    simp only [array.sizeOf_spec]
    omega
  | intersection members =>
    have smaller : sizeOf child < sizeOf members := List.sizeOf_lt_of_mem member
    simp only [intersection.sizeOf_spec]
    omega

theorem children_induction {P : TypeExpr H → Prop}
    (step : ∀ t : TypeExpr H, (∀ child ∈ t.children, P child) → P t) (t : TypeExpr H) : P t :=
  step t fun child _ => children_induction step child
termination_by sizeOf t
decreasing_by exact sizeOf_lt_of_mem_children (by assumption)

end GenericTypes.TypeExpr
