import GenericTypes.Proofs.ClassTable.Hierarchy
import GenericTypes.Proofs.Hierarchy.Expansion

namespace GenericTypes.ClassTable

variable {table : ClassTable} {name upper : TypeName}

theorem Reachable.rank_lt_of_ancestor (reachable : Reachable table)
    (ancestor : table.host.AncestorInterface name upper) :
    table.rank upper.element < table.rank name.element := by
  induction ancestor with
  | single direct => exact (reachable.mem_interfaces direct).1.rank_lt
  | tail _ direct ih => exact (reachable.mem_interfaces direct).1.rank_lt.trans ih

theorem Reachable.acyclicFrom (reachable : Reachable table) (name : TypeName) :
    table.host.AcyclicFrom name :=
  fun _ _ cycle => Nat.lt_irrefl _ (reachable.rank_lt_of_ancestor cycle)

theorem Reachable.ancestor_declared (reachable : Reachable table)
    (ancestor : table.host.AncestorInterface name upper) : upper ∈ table.declaredTypes := by
  cases ancestor with
  | single direct => exact reachable.interfaces_declared direct
  | tail _ direct => exact reachable.interfaces_declared direct

theorem Reachable.ancestors_finite (reachable : Reachable table) (name : TypeName) :
    {upper | table.host.AncestorInterface name upper}.Finite ∧
      {upper | table.host.AncestorInterface name upper}.ncard < table.walkBound := by
  have covered : {upper | table.host.AncestorInterface name upper} ⊆ table.declaredTypes :=
    fun _ => reachable.ancestor_declared
  have few := Set.ncard_le_ncard covered
  rw [Set.ncard_coe_finset] at few
  exact ⟨table.declaredTypes.finite_toSet.subset covered, few.trans_lt table.card_declaredTypes_lt⟩

/-- Where the interfaces above a start have no cycle, and so everywhere in a class table, a lattice
    walk visits what following every path again visits, each interface at its first occurrence. -/
theorem interfaceLattice_keeps_first_occurrences :
    (∀ {H : Type} [DecidableEq H] (host : Host H) (start : H) (includeSelf : Bool),
      host.isRoot start = false → host.AcyclicFrom start →
        host.KeepsFirstOccurrences start includeSelf) ∧
    ∀ table, Reachable table → ∀ name, table.host.AcyclicFrom name ∧
      (table.host.isRoot name = false → ∀ includeSelf bound, table.walkBound ≤ bound →
        (table.host.expansion bound name includeSelf).ending = .completed ∧
        (table.host.interfaceLattice bound name includeSelf).outcome = .completed ∧
        (table.host.interfaceLattice bound name includeSelf).toList =
          (table.host.expansion bound name includeSelf).sequence.eraseDups) := by
  refine ⟨fun host start includeSelf below acyclic =>
    acyclic.keepsFirstOccurrences below includeSelf, fun table reachable name => ?_⟩
  have acyclic := reachable.acyclicFrom name
  refine ⟨acyclic, fun below includeSelf bound enough => ?_⟩
  obtain ⟨finite, few⟩ := reachable.ancestors_finite name
  have keeps := acyclic.keepsFirstOccurrences below includeSelf
  have ended := keeps.finite finite bound (few.trans_le enough)
  exact ⟨ended, keeps.ended bound ended⟩

def diamond : ClassTable :=
  initial.attemptAll
    [⟨.interface, "Base", []⟩,
      ⟨.interface, "Left", [.extending ⟨.plain "Base", none⟩]⟩,
      ⟨.interface, "Right", [.extending ⟨.plain "Base", none⟩]⟩,
      ⟨.interface, "Top", [.extending ⟨.plain "Left", none⟩, .extending ⟨.plain "Right", none⟩]⟩]

theorem interfaceLattice_keeps_diamond :
    Reachable diamond ∧ diamond.host.isRoot (.plain "Top") = false ∧
      diamond.host.KeepsFirstOccurrences (.plain "Top") true ∧
      (diamond.host.interfaceLattice diamond.walkBound (.plain "Top") true).toList =
        (diamond.host.expansion diamond.walkBound (.plain "Top") true).sequence.eraseDups := by
  have reachable : Reachable diamond := Reachable.initial.attemptAll _
  have below : diamond.host.isRoot (.plain "Top") = false := by decide +kernel
  obtain ⟨general, inTables⟩ := interfaceLattice_keeps_first_occurrences
  obtain ⟨acyclic, lists⟩ := inTables diamond reachable (.plain "Top")
  obtain ⟨-, -, listed⟩ := lists below true diamond.walkBound le_rfl
  exact ⟨reachable, below, general diamond.host (.plain "Top") true below acyclic, listed⟩

example :
    (diamond.host.expansion diamond.walkBound (.plain "Top") true).sequence =
      ["Top", "Left", "Base", "Right", "Base"].map TypeName.plain ∧
    (diamond.host.interfaceLattice diamond.walkBound (.plain "Top") true).toList =
      ["Top", "Left", "Base", "Right"].map TypeName.plain := by decide +kernel

end GenericTypes.ClassTable
