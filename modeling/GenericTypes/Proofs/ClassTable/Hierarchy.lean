import GenericTypes.Proofs.ClassTable.Order
import GenericTypes.Proofs.Hierarchy.Subtype
import GenericTypes.Proofs.Hierarchy.Termination

namespace GenericTypes.ClassTable

variable {table : ClassTable} {name superclass : TypeName} {entry : ClassEntry}

theorem superclass?_of_plain (plain : name.isArray = false) :
    table.superclass? name = (table.info? name).bind ClassEntry.superclass := by
  simp [superclass?, plain]

theorem superclass?_of_array (array : name.isArray = true) :
    table.superclass? name = some .object := by
  simp [superclass?, array]

theorem superclass?_of_info? (found : table.info? name = some entry) :
    table.superclass? name = entry.superclass := by
  rw [superclass?_of_plain (info?_eq_some_iff.mp found).1, found, Option.bind_some]

theorem host_isInterface :
    table.host.isInterface name = true ↔ table.kind? name = some .interface := by
  simp [host]

theorem host_isRoot :
    table.host.isRoot name = true ↔
      table.kind? name ≠ some .interface ∧ table.superclass? name = none := by
  simp [host]

theorem Reachable.superclass?_eq_some (reachable : Reachable table) (plain : name.isArray = false)
    (extended : table.superclass? name = some superclass) :
    table.Precedes superclass name ∧ table.Extensible superclass := by
  rw [superclass?_of_plain plain, Option.bind_eq_some_iff] at extended
  obtain ⟨entry, found, written⟩ := extended
  exact (reachable.stratified found).superclass superclass written

theorem Reachable.superclass?_object (reachable : Reachable table) :
    table.superclass? .object = none :=
  superclass?_of_info? reachable.info?_object

theorem Reachable.isRoot_iff (reachable : Reachable table) (declared : table.declares name = true) :
    table.host.isRoot name = true ↔ name = .object := by
  rw [host_isRoot]
  constructor
  · intro root
    obtain ⟨kind, unextended⟩ := root
    cases array : name.isArray with
    | true => simp [superclass?_of_array array] at unextended
    | false =>
      obtain ⟨entry, found⟩ := exists_info? declared array
      rw [superclass?_of_info? found] at unextended
      refine (reachable.stratified found).rooted (fun interface => kind ?_) unextended
      exact kind?_eq_some_iff.mpr ⟨entry, found, interface⟩
  · rintro rfl
    refine ⟨fun interface => ?_, reachable.superclass?_object⟩
    obtain ⟨entry, found, kind⟩ := kind?_eq_some_iff.mp interface
    obtain rfl := Option.some.inj (reachable.info?_object.symm.trans found)
    cases kind

theorem Reachable.superclass_induction (reachable : Reachable table) {P : TypeName → Prop}
    (step : ∀ name, name.isArray = false →
      (∀ superclass, table.superclass? name = some superclass → P superclass) → P name)
    (plain : name.isArray = false) : P name := by
  induction place : table.rank name.element using Nat.strong_induction_on generalizing name with
  | _ place ih =>
    refine step name plain fun superclass extended => ?_
    obtain ⟨precedes, extensible⟩ := reachable.superclass?_eq_some plain extended
    exact ih _ (place ▸ precedes.rank_lt) extensible.plain rfl

theorem exists_superclass (proper : table.host.isProperClass name = true) :
    ∃ superclass, table.superclass? name = some superclass := by
  obtain ⟨notInterface, notRoot⟩ := Host.isProperClass_iff.mp proper
  by_contra absent
  have unextended : table.superclass? name = none :=
    Option.eq_none_iff_forall_ne_some.mpr fun superclass extended => absent ⟨superclass, extended⟩
  have kind : table.kind? name ≠ some .interface := by
    rw [Ne, ← host_isInterface, notInterface]
    decide
  simp [host_isRoot.mpr ⟨kind, unextended⟩] at notRoot

theorem Reachable.exists_chain_of_plain (reachable : Reachable table)
    (plain : name.isArray = false) :
    ∃ classes, table.host.Chain (some name) classes ∧ classes.length ≤ table.rank name.element := by
  refine reachable.superclass_induction (P := fun name => ∃ classes,
    table.host.Chain (some name) classes ∧ classes.length ≤ table.rank name.element) ?_ plain
  intro name plain ih
  -- One more class is one step down in the order of declarations.
  cases proper : table.host.isProperClass name with
  | false => exact ⟨[], .apex proper, by simp⟩
  | true =>
    obtain ⟨superclass, extended⟩ := exists_superclass proper
    obtain ⟨precedes, extensible⟩ := reachable.superclass?_eq_some plain extended
    obtain ⟨classes, chain, short⟩ := ih superclass extended
    have rest : table.host.Chain (table.host.superclass name) classes := by
      change table.host.Chain (table.superclass? name) classes
      rwa [extended]
    refine ⟨name :: classes, .proper proper rest, ?_⟩
    exact Nat.lt_of_le_of_lt short precedes.rank_lt

theorem Reachable.exists_chain (reachable : Reachable table) (name : TypeName) :
    ∃ classes, table.host.Chain (some name) classes ∧ classes.length < table.walkBound := by
  cases array : name.isArray with
  | false =>
    obtain ⟨classes, chain, short⟩ := reachable.exists_chain_of_plain array
    have lower := table.rank_le name.element
    exact ⟨classes, chain, by simp only [walkBound]; omega⟩
  | true =>
    have apex : table.host.isProperClass .object = false := by
      have declared := declares_of_info? reachable.info?_object
      simp [Host.isProperClass, (reachable.isRoot_iff declared).mpr rfl]
    cases proper : table.host.isProperClass name with
    | false => exact ⟨[], .apex proper, by simp [walkBound]⟩
    | true =>
      have rest : table.host.Chain (table.host.superclass name) [] := by
        change table.host.Chain (table.superclass? name) []
        rw [superclass?_of_array array]
        exact .apex apex
      exact ⟨[name], .proper proper rest, by simp [walkBound]⟩

theorem Reachable.exists_iterate_superclass (reachable : Reachable table) (name : TypeName) :
    ∃ steps, (fun next => next.bind table.superclass?)^[steps] (some name) = none := by
  have ofPlain : ∀ name : TypeName, name.isArray = false →
      ∃ steps, (fun next => next.bind table.superclass?)^[steps] (some name) = none := by
    intro name plain
    refine reachable.superclass_induction (P := fun name => ∃ steps,
      (fun next => next.bind table.superclass?)^[steps] (some name) = none) ?_ plain
    intro name _ ih
    cases extended : table.superclass? name with
    | none => exact ⟨1, by simp [extended]⟩
    | some superclass =>
      obtain ⟨steps, ended⟩ := ih superclass extended
      exact ⟨steps + 1, by simpa [Function.iterate_succ_apply, extended] using ended⟩
  cases array : name.isArray with
  | false => exact ofPlain name array
  | true =>
    obtain ⟨steps, ended⟩ := ofPlain .object rfl
    refine ⟨steps + 1, ?_⟩
    simpa [Function.iterate_succ_apply, superclass?_of_array array] using ended

theorem Reachable.extends_object (reachable : Reachable table)
    (extensible : table.Extensible name) :
    Relation.ReflTransGen (fun below above => table.superclass? below = some above) name
      .object := by
  refine reachable.superclass_induction (P := fun name => table.Extensible name →
    Relation.ReflTransGen (fun below above => table.superclass? below = some above) name .object)
    ?_ extensible.plain extensible
  intro name plain ih extensible
  obtain ⟨entry, found, kind⟩ := extensible.entry
  cases extended : table.superclass? name with
  | none =>
    rw [superclass?_of_info? found] at extended
    rw [(reachable.stratified found).rooted kind extended]
  | some superclass =>
    obtain ⟨-, above⟩ := reachable.superclass?_eq_some plain extended
    exact .head extended (ih superclass extended above)

def declaredTypes (table : ClassTable) : Finset TypeName :=
  (table.entries.map fun entry => TypeName.plain entry.1).toFinset

theorem card_declaredTypes_lt (table : ClassTable) :
    table.declaredTypes.card < table.walkBound := by
  have bound := List.toFinset_card_le (table.entries.map fun entry => TypeName.plain entry.1)
  rw [List.length_map] at bound
  simp only [declaredTypes, walkBound]
  omega

theorem mem_declaredTypes (found : table.info? name = some entry) :
    name ∈ table.declaredTypes := by
  obtain ⟨plain, found⟩ := info?_eq_some_iff.mp found
  obtain ⟨before, after, split, -⟩ := List.lookup_eq_some_iff.mp found
  simp only [declaredTypes, List.mem_toFinset, List.mem_map]
  exact ⟨(name.element, entry), by simp [split], (TypeName.eq_plain_iff.mpr ⟨rfl, plain⟩).symm⟩

theorem Reachable.mem_interfaces (reachable : Reachable table) {interface : TypeName}
    (member : interface ∈ table.interfaces name) :
    table.Precedes interface name ∧ interface.isArray = false ∧
      table.kind? interface = some .interface := by
  cases found : table.info? name with
  | none => simp [interfaces, found] at member
  | some entry =>
    simp only [interfaces, found, Option.map_some, Option.getD_some] at member
    exact (reachable.stratified found).interfaces interface member

theorem Reachable.interfaces_declared (reachable : Reachable table) {interface : TypeName}
    (member : interface ∈ table.interfaces name) : interface ∈ table.declaredTypes := by
  obtain ⟨-, -, kind⟩ := reachable.mem_interfaces member
  obtain ⟨stored, found, -⟩ := kind?_eq_some_iff.mp kind
  exact mem_declaredTypes found

theorem Reachable.declaredTypes_closed (reachable : Reachable table) :
    table.host.ClosedRegion table.declaredTypes :=
  fun _ _ _ member => reachable.interfaces_declared member

theorem Reachable.subtypeSearch_ne_unfinished (reachable : Reachable table) {bound : Nat}
    (enough : table.walkBound ≤ bound) (sub sup : TypeName) :
    table.host.subtypeSearch bound sub sup ≠ .unfinished := by
  obtain ⟨classes, chain, short⟩ := reachable.exists_chain sub
  exact (chain.subtypeSearch_decides (Nat.lt_of_lt_of_le short enough)
    reachable.declaredTypes_closed (fun _ _ _ => reachable.interfaces_declared)
    (Nat.lt_of_lt_of_le table.card_declaredTypes_lt enough) sup).ne_unfinished

/-- After any attempts the table is ordered by declaration, the root is the only declared root,
    every chain of superclasses is finite and that of a class ends at the root, and within the bound
    of the table every walk and every subtype test ends. -/
theorem hierarchy_of_attempts (attempts : List Declaration) :
    let table := initial.attemptAll attempts
    (∀ name entry, table.info? name = some entry → table.Stratified name entry) ∧
    (∀ name, table.declares name = true → (table.host.isRoot name = true ↔ name = .object)) ∧
    (∀ name, ∃ steps, (fun next => next.bind table.host.superclass)^[steps] (some name) = none) ∧
    (∀ name, table.Extensible name → Relation.ReflTransGen
      (fun below above => table.host.superclass below = some above) name .object) ∧
    ∀ bound, table.walkBound ≤ bound →
      (∀ start includeSelf lineage,
        (table.host.lineage bound start includeSelf lineage).Terminates) ∧
      ∀ sub sup, table.host.subtypeSearch bound sub sup ≠ .unfinished := by
  intro table
  have reachable : Reachable table := Reachable.initial.attemptAll attempts
  refine ⟨fun _ _ => reachable.stratified, fun _ => reachable.isRoot_iff,
    reachable.exists_iterate_superclass, fun _ => reachable.extends_object, ?_⟩
  intro bound enough
  have enoughDepth := Nat.lt_of_lt_of_le table.card_declaredTypes_lt enough
  refine ⟨fun start includeSelf lineage => ?_, reachable.subtypeSearch_ne_unfinished enough⟩
  obtain ⟨classes, chain, short⟩ := reachable.exists_chain start
  exact Host.lineage_terminates chain (Nat.lt_of_lt_of_le short enough)
    reachable.declaredTypes_closed (fun _ => reachable.interfaces_declared) enoughDepth includeSelf
    lineage

end GenericTypes.ClassTable
