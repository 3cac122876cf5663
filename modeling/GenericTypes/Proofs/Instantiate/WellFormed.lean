import GenericTypes.Instantiate
import GenericTypes.Proofs.TypeExpr.Nodes

namespace GenericTypes.Host

variable {H : Type} {host : Host H}

/-- An owner is the enclosing type of the raw type or an instantiation of it. A raw type without an
    enclosing type has no owner. -/
def AdmitsOwner (host : Host H) (raw : H) : Option (TypeExpr H) → Prop
  | none => host.enclosing raw = none
  | some (.nominal outer) => host.enclosing raw = some outer
  | some (.parameterized _ outer _) => host.enclosing raw = some outer
  | some _ => False

def AdmitsNode (host : Host H) : TypeExpr H → Prop
  | .parameterized owner raw args => args.length = host.arity raw ∧ host.AdmitsOwner raw owner
  | .array (.nominal _) => False
  | _ => True

def WellFormed (host : Host H) (t : TypeExpr H) : Prop :=
  ∀ node ∈ t.nodes, host.AdmitsNode node

section Decidable

variable [DecidableEq H]

instance (raw : H) : (owner : Option (TypeExpr H)) → Decidable (host.AdmitsOwner raw owner)
  | none => inferInstanceAs (Decidable (host.enclosing raw = none))
  | some (.nominal outer) => inferInstanceAs (Decidable (host.enclosing raw = some outer))
  | some (.parameterized _ outer _) => inferInstanceAs (Decidable (host.enclosing raw = some outer))
  | some (.wildcard ..) | some (.array _) | some (.intersection _) => .isFalse id

instance : (node : TypeExpr H) → Decidable (host.AdmitsNode node)
  | .parameterized .. => inferInstanceAs (Decidable (_ ∧ _))
  | .array (.nominal _) => .isFalse id
  | .nominal _ | .wildcard .. | .intersection _ => .isTrue trivial
  | .array (.parameterized ..) | .array (.wildcard ..) | .array (.array _)
  | .array (.intersection _) => .isTrue trivial

instance (t : TypeExpr H) : Decidable (host.WellFormed t) :=
  inferInstanceAs (Decidable (∀ node ∈ t.nodes, host.AdmitsNode node))

end Decidable

theorem wellFormed_iff {t : TypeExpr H} :
    host.WellFormed t ↔ host.AdmitsNode t ∧ ∀ child ∈ t.children, host.WellFormed child :=
  TypeExpr.throughout_iff

theorem wellFormed_nominal (h : H) : host.WellFormed (.nominal h) := by
  rw [wellFormed_iff]
  exact ⟨trivial, fun child member => by cases member⟩

theorem wellFormed_parameterized_iff {owner : Option (TypeExpr H)} {raw : H}
    {args : List (TypeExpr H)} :
    host.WellFormed (.parameterized owner raw args) ↔
      args.length = host.arity raw ∧ host.AdmitsOwner raw owner ∧
        (∀ outer ∈ owner, host.WellFormed outer) ∧ ∀ arg ∈ args, host.WellFormed arg := by
  rw [wellFormed_iff]
  simp [AdmitsNode, TypeExpr.children, or_imp, forall_and, and_assoc]

theorem wellFormed_wildcard_iff {upper lower : List (TypeExpr H)} :
    host.WellFormed (.wildcard upper lower) ↔
      (∀ bound ∈ upper, host.WellFormed bound) ∧ ∀ bound ∈ lower, host.WellFormed bound := by
  rw [wellFormed_iff]
  simp [AdmitsNode, TypeExpr.children, or_imp, forall_and]

theorem wellFormed_array_iff {component : TypeExpr H} :
    host.WellFormed (.array component) ↔
      (∀ h, component ≠ .nominal h) ∧ host.WellFormed component := by
  rw [wellFormed_iff]
  cases component <;> simp [AdmitsNode, TypeExpr.children]

theorem wellFormed_intersection_iff {members : List (TypeExpr H)} :
    host.WellFormed (.intersection members) ↔ ∀ member ∈ members, host.WellFormed member := by
  rw [wellFormed_iff]
  simp [AdmitsNode, TypeExpr.children]

theorem arrayOf_eq_array {component : TypeExpr H} (structural : ∀ h, component ≠ .nominal h) :
    host.arrayOf component = .array component := by
  cases component with
  | nominal h => exact absurd rfl (structural h)
  | parameterized | wildcard | array | intersection => rfl

theorem admitsNode_congr {other : Host H} {owner : Option (TypeExpr H)} {raw : H}
    {args : List (TypeExpr H)} (arity : other.arity raw = host.arity raw)
    (enclosing : other.enclosing raw = host.enclosing raw) :
    other.AdmitsNode (.parameterized owner raw args) ↔
      host.AdmitsNode (.parameterized owner raw args) := by
  have sameOwner : other.AdmitsOwner raw owner ↔ host.AdmitsOwner raw owner := by
    rcases owner with - | owner
    · simp only [AdmitsOwner, enclosing]
    · cases owner <;> simp only [AdmitsOwner, enclosing]
  simp only [AdmitsNode, arity, sameOwner]

theorem admitsOwner_default (host : Host H) (raw : H) :
    host.AdmitsOwner raw ((host.enclosing raw).map .nominal) := by
  cases encloses : host.enclosing raw with
  | none => exact encloses
  | some outer => exact encloses

theorem AdmitsOwner.exists_handle? {raw : H} {owner : TypeExpr H}
    (admits : host.AdmitsOwner raw (some owner)) :
    ∃ outer, host.enclosing raw = some outer ∧ owner.handle? = some outer := by
  cases owner with
  | nominal outer => exact ⟨outer, admits, rfl⟩
  | parameterized _ outer _ => exact ⟨outer, admits, rfl⟩
  | wildcard | array | intersection => exact False.elim admits

/-- Induction along the owners, from the outside to the inside: each is the type that encloses the
    next one, or an instantiation of it. -/
theorem WellFormed.owner_induction {P : TypeExpr H → H → Prop} (nominal : ∀ h, P (.nominal h) h)
    (outermost : ∀ raw args, P (.parameterized none raw args) raw)
    (inside : ∀ owner outer raw args, host.enclosing raw = some outer → owner.handle? = some outer →
      P owner outer → P (.parameterized (some owner) raw args) raw)
    {t : TypeExpr H} {h : H} (wellFormed : host.WellFormed t) (names : t.handle? = some h) :
    P t h := by
  induction t using TypeExpr.children_induction generalizing h with
  | step t ih =>
    cases t with
    | nominal other =>
      obtain rfl : other = h := Option.some.inj names
      exact nominal other
    | parameterized owner raw args =>
      obtain rfl : raw = h := Option.some.inj names
      cases owner with
      | none => exact outermost raw args
      | some owner =>
        obtain ⟨-, admits, outers, -⟩ := wellFormed_parameterized_iff.mp wellFormed
        obtain ⟨outer, encloses, named⟩ := admits.exists_handle?
        have isChild : owner ∈ (TypeExpr.parameterized (some owner) raw args).children :=
          List.mem_cons_self
        exact inside owner outer raw args encloses named (ih owner isChild (outers owner rfl) named)
    | wildcard | array | intersection => cases names

theorem nominal_throughout {P : TypeExpr H → Prop} (admits : ∀ node, host.AdmitsNode node → P node)
    (h : H) : (TypeExpr.nominal h).Throughout P :=
  fun node member => admits node (wellFormed_nominal h node member)

theorem arrayOf_throughout {P : TypeExpr H → Prop} (admits : ∀ node, host.AdmitsNode node → P node)
    {component : TypeExpr H} (part : component.Throughout P) :
    (host.arrayOf component).Throughout P := by
  rcases component.nominal_or_structural with ⟨h, rfl⟩ | structural
  · exact nominal_throughout admits _
  · rw [arrayOf_eq_array structural, TypeExpr.throughout_iff]
    refine ⟨admits _ ?_, by simpa [TypeExpr.children] using part⟩
    cases component with
    | nominal h => exact structural h rfl
    | parameterized | wildcard | array | intersection => exact True.intro

variable [DecidableEq H]

theorem resolveOwner_eq_ok_iff {raw : H} {given owner : Option (TypeExpr H)} :
    host.resolveOwner raw given = .ok owner ↔
      (given = none ∧ owner = (host.enclosing raw).map .nominal) ∨
        ∃ outerOwner outer outerArgs, host.enclosing raw = some outer ∧
          given = some (.parameterized outerOwner outer outerArgs) ∧ owner = given := by
  rcases given with - | given
  · simp [resolveOwner, eq_comm]
  · cases given with
    | nominal | wildcard | array | intersection => simp [resolveOwner]
    | parameterized outerOwner outer outerArgs =>
      by_cases encloses : host.enclosing raw = some outer
      · simp [resolveOwner, encloses, eq_comm]
      · refine iff_of_false (by simp [resolveOwner, encloses]) ?_
        intro resolved
        rcases resolved with ⟨absent, -⟩ | ⟨_, _, _, enclosed, same, -⟩
        · cases absent
        · cases same
          exact encloses enclosed

theorem instantiateIn_eq_ok_iff {raw : H} {given : Option (TypeExpr H)} {args : List (TypeExpr H)}
    {t : TypeExpr H} :
    host.instantiateIn given raw args = .ok t ↔
      args.length = host.arity raw ∧
        ∃ owner, host.resolveOwner raw given = .ok owner ∧ t = .parameterized owner raw args := by
  unfold instantiateIn
  by_cases arity : args.length = host.arity raw
  · cases resolved : host.resolveOwner raw given <;> simp [arity, Except.map, eq_comm]
  · simp [arity]

section Throughout

variable {P : TypeExpr H → Prop} {raw : H} {given owner : Option (TypeExpr H)}
  {args : List (TypeExpr H)} {t : TypeExpr H}

theorem resolveOwner_throughout (admits : ∀ node, host.AdmitsNode node → P node)
    (resolved : host.resolveOwner raw given = .ok owner)
    (parts : ∀ outer ∈ given, outer.Throughout P) :
    host.AdmitsOwner raw owner ∧ ∀ outer ∈ owner, outer.Throughout P := by
  rcases resolveOwner_eq_ok_iff.mp resolved with
    ⟨rfl, rfl⟩ | ⟨outerOwner, outer, outerArgs, encloses, rfl, rfl⟩
  · refine ⟨host.admitsOwner_default raw, fun outer member => ?_⟩
    obtain ⟨h, -, rfl⟩ := Option.map_eq_some_iff.mp member
    exact nominal_throughout admits h
  · exact ⟨encloses, parts⟩

theorem instantiateIn_throughout (admits : ∀ node, host.AdmitsNode node → P node)
    (built : host.instantiateIn given raw args = .ok t)
    (parts : ∀ outer ∈ given, outer.Throughout P) (arguments : ∀ arg ∈ args, arg.Throughout P) :
    t.Throughout P := by
  obtain ⟨arity, resolved, isResolved, rfl⟩ := instantiateIn_eq_ok_iff.mp built
  obtain ⟨admitsOwner, outers⟩ := resolveOwner_throughout admits isResolved parts
  refine TypeExpr.throughout_iff.mpr ⟨admits _ ⟨arity, admitsOwner⟩, fun child member => ?_⟩
  rcases List.mem_append.mp member with isOwner | isArg
  · exact outers child (Option.mem_toList.mp isOwner)
  · exact arguments child isArg

theorem instantiate_throughout (admits : ∀ node, host.AdmitsNode node → P node)
    (built : host.instantiate raw args = .ok t) (arguments : ∀ arg ∈ args, arg.Throughout P) :
    t.Throughout P := by
  unfold Host.instantiate at built
  split at built
  · cases built
    exact nominal_throughout admits raw
  · exact instantiateIn_throughout admits built (by simp) arguments

end Throughout

/-- What the validated constructions make of nominal types. A wildcard may lack bounds on either
    side. -/
inductive Constructible (host : Host H) : TypeExpr H → Prop where
  | nominal (h : H) : Constructible host (.nominal h)
  | intersection {members : List (TypeExpr H)} (parts : ∀ t ∈ members, Constructible host t) :
      Constructible host (.intersection members)
  | wildcard {upper lower : List (TypeExpr H)} (uppers : ∀ t ∈ upper, Constructible host t)
      (lowers : ∀ t ∈ lower, Constructible host t) : Constructible host (.wildcard upper lower)
  | arrayOf {component : TypeExpr H} (part : Constructible host component) :
      Constructible host (host.arrayOf component)
  | instantiate {raw : H} {args : List (TypeExpr H)} {t : TypeExpr H}
      (arguments : ∀ arg ∈ args, Constructible host arg)
      (built : host.instantiate raw args = .ok t) : Constructible host t
  | instantiateIn {raw : H} {given : Option (TypeExpr H)} {args : List (TypeExpr H)}
      {t : TypeExpr H} (owner : ∀ outer ∈ given, Constructible host outer)
      (arguments : ∀ arg ∈ args, Constructible host arg)
      (built : host.instantiateIn given raw args = .ok t) : Constructible host t

theorem Constructible.wellFormed {t : TypeExpr H} (constructible : host.Constructible t) :
    host.WellFormed t := by
  induction constructible with
  | nominal h => exact wellFormed_nominal h
  | intersection _ parts => exact wellFormed_intersection_iff.mpr parts
  | wildcard _ _ uppers lowers => exact wellFormed_wildcard_iff.mpr ⟨uppers, lowers⟩
  | arrayOf _ part => exact arrayOf_throughout (fun _ => id) part
  | instantiate _ built arguments => exact instantiate_throughout (fun _ => id) built arguments
  | instantiateIn _ _ built owner arguments =>
    exact instantiateIn_throughout (fun _ => id) built owner arguments

end GenericTypes.Host
