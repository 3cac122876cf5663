import GenericTypes.ClassTable.Declare
import GenericTypes.Proofs.TypeExpr.Preorder
import Mathlib.Data.Option.Basic

namespace GenericTypes.ClassTable

variable {table grown : ClassTable} {draft : Draft} {self : TypeName}

theorem declares_iff_lookup {name : TypeName} :
    table.declares name = true ↔ ∃ entry, table.lookup name.element = some entry := by
  simp [declares, Option.isSome_iff_exists]

theorem unknownFault_eq_none_iff {name : TypeName} :
    table.unknownFault name = none ↔ table.declares name = true := by
  simp [unknownFault]

/-- Every leaf and every raw type in the expression is declared, or is the type under
    declaration. -/
def Knows (table : ClassTable) (own : TypeName) (t : TypeExpr TypeName) : Prop :=
  ∀ node ∈ t.nodes, ∀ name, node.Names name → name = own ∨ table.declares name = true

theorem knows_iff_mentions {own : TypeName} {t : TypeExpr TypeName} :
    table.Knows own t ↔ ∀ name ∈ t.mentions, name = own ∨ table.declares name = true := by
  unfold Knows
  constructor
  · intro known name mentioned
    obtain ⟨node, member, names⟩ := TypeExpr.mem_mentions_iff.mp mentioned
    exact known node member name names
  · intro known node member name names
    apply known name
    exact TypeExpr.mem_mentions_iff.mpr ⟨node, member, names⟩

theorem argumentFault_eq_none_iff {arg : TypeExpr TypeName} :
    table.argumentFault self arg = none ↔ table.Knows self arg := by
  simp only [argumentFault, List.findSome?_eq_none_iff, knows_iff_mentions]
  constructor
  · intro faultless name member
    have absent := faultless name member
    by_cases same : name = self
    · exact .inl same
    · rw [if_neg same, unknownFault_eq_none_iff] at absent
      exact .inr absent
  · intro known name member
    rcases known name member with same | declared
    · rw [if_pos same]
    · simp [unknownFault, declared]

structure AcceptsSupertype (table : ClassTable) (own : TypeName) (supertype : Supertype) :
    Prop where
  declared : table.declares supertype.raw = true
  arity : ∀ args, supertype.args = some args → args.length = table.typeParams supertype.raw
  known : ∀ args, supertype.args = some args → ∀ arg ∈ args, table.Knows own arg

theorem supertypeFault_eq_none_iff {supertype : Supertype} :
    table.supertypeFault self supertype = none ↔ table.AcceptsSupertype self supertype := by
  obtain ⟨raw, args⟩ := supertype
  simp only [supertypeFault, Option.orElse_eq_none, unknownFault_eq_none_iff]
  cases args with
  | none =>
    constructor
    · intro faultless
      obtain ⟨declared, -⟩ := faultless
      exact ⟨declared, by simp, by simp⟩
    · intro accepted
      exact ⟨accepted.declared, rfl⟩
  | some args =>
    simp only [Option.bind_some]
    constructor
    · intro faultless
      obtain ⟨declared, faultless⟩ := faultless
      by_cases fits : args.length = table.typeParams raw
      · simp only [fits, ne_eq, not_true_eq_false, ↓reduceIte, List.findSome?_eq_none_iff,
          argumentFault_eq_none_iff] at faultless
        refine ⟨declared, ?_, ?_⟩
        · rintro _ ⟨⟩
          exact fits
        · rintro _ ⟨⟩
          exact faultless
      · simp [fits] at faultless
    · intro accepted
      refine ⟨accepted.declared, ?_⟩
      simp only [accepted.arity args rfl, ne_eq, not_true_eq_false, ↓reduceIte,
        List.findSome?_eq_none_iff, argumentFault_eq_none_iff]
      exact accepted.known args rfl

structure Accepts (table : ClassTable) (draft : Draft) : Prop where
  fresh : table.declares draft.self = false
  not_overextended : draft.overextended = false
  enclosing : ∀ outer, draft.enclosing = some outer → table.declares outer = true
  superclass : ∀ superclass, draft.effectiveSuperclass = some superclass →
    table.AcceptsSupertype draft.self superclass ∧
      table.kind? superclass.raw ≠ some .interface ∧ superclass.raw.isArray = false
  interfaces : ∀ interface ∈ draft.interfaces,
    table.AcceptsSupertype draft.self interface ∧ table.kind? interface.raw = some .interface

theorem superclassFault_eq_none_iff {superclass : Supertype} :
    table.superclassFault self superclass = none ↔
      table.AcceptsSupertype self superclass ∧
        table.kind? superclass.raw ≠ some .interface ∧ superclass.raw.isArray = false := by
  simp only [superclassFault, Option.orElse_eq_none, supertypeFault_eq_none_iff]
  simp

theorem interfaceFault_eq_none_iff {interface : Supertype} :
    table.interfaceFault self interface = none ↔
      table.AcceptsSupertype self interface ∧ table.kind? interface.raw = some .interface := by
  simp only [interfaceFault, Option.orElse_eq_none, supertypeFault_eq_none_iff]
  simp

theorem firstFault_eq_none_iff : table.firstFault draft = none ↔ table.Accepts draft := by
  simp only [firstFault, Option.orElse_eq_none, Option.bind_eq_none_iff,
    List.findSome?_eq_none_iff, superclassFault_eq_none_iff, interfaceFault_eq_none_iff,
    unknownFault_eq_none_iff]
  constructor
  · intro faultless
    obtain ⟨fresh, single, enclosing, superclass, interfaces⟩ := faultless
    exact ⟨by simpa using fresh, by simpa using single, enclosing, superclass, interfaces⟩
  · intro accepted
    exact ⟨by simp [accepted.fresh], by simp [accepted.not_overextended], accepted.enclosing,
      accepted.superclass, accepted.interfaces⟩

def extendedBy (table : ClassTable) (draft : Draft) : ClassTable :=
  table.insert draft.qualifiedName (table.entryOf draft)

theorem declare_eq_ok_iff {declaration : Declaration} :
    table.declare declaration = .ok (self, grown) ↔
      table.Accepts declaration.draft ∧ self = declaration.draft.self ∧
        grown = table.extendedBy declaration.draft := by
  rw [← firstFault_eq_none_iff, declare, register]
  cases table.firstFault declaration.draft with
  | some fault => simp
  | none => simp [extendedBy, eq_comm]

end GenericTypes.ClassTable
