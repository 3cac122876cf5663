import GenericTypes.Proofs.ClassTable.Growth

namespace GenericTypes

theorem Draft.effectiveSuperclass_eq_none_iff {draft : Draft} :
    draft.effectiveSuperclass = none ↔ draft.kind = .interface := by
  unfold effectiveSuperclass
  split <;> simp_all

namespace ClassTable

variable {table grown : ClassTable} {draft : Draft} {name earlier later : TypeName}
  {entry : ClassEntry}

/-- The place of a type in the order of declarations, from one on; zero if it is not declared. -/
def rank (table : ClassTable) (element : String) : Nat :=
  (table.entries.dropWhile (·.1 != element)).length

theorem rank_le (table : ClassTable) (element : String) :
    table.rank element ≤ table.entries.length :=
  (List.dropWhile_sublist _).length_le

theorem rank_insert (table : ClassTable) (element other : String) (entry : ClassEntry) :
    (table.insert element entry).rank other =
      if other = element then table.entries.length + 1 else table.rank other := by
  by_cases same : other = element
  · simp [rank, insert, same]
  · have differs : (element != other) = true := by simpa using fun h => same h.symm
    simp [rank, insert, same, differs]

structure Precedes (table : ClassTable) (earlier later : TypeName) : Prop where
  declared : table.declares earlier = true
  rank_lt : table.rank earlier.element < table.rank later.element

theorem Accepts.precedes_self (accepted : table.Accepts draft)
    (declared : table.declares earlier = true) :
    (table.extendedBy draft).Precedes earlier draft.self where
  declared := (declares_extendedBy table draft earlier).mpr (.inr declared)
  rank_lt := by
    have bound := table.rank_le earlier.element
    rw [extendedBy, rank_insert, rank_insert, if_neg (accepted.ne_self declared),
      if_pos (by rfl)]
    omega

theorem Accepts.precedes (accepted : table.Accepts draft) (precedes : table.Precedes earlier later)
    (declared : table.declares later = true) :
    (table.extendedBy draft).Precedes earlier later where
  declared := (declares_extendedBy table draft earlier).mpr (.inr precedes.declared)
  rank_lt := by
    rw [extendedBy, rank_insert, rank_insert, if_neg (accepted.ne_self precedes.declared),
      if_neg (accepted.ne_self declared)]
    exact precedes.rank_lt

theorem Accepts.kind?_eq_some (accepted : table.Accepts draft) {kind : ClassKind}
    (found : table.kind? name = some kind) : (table.extendedBy draft).kind? name = some kind := by
  obtain ⟨entry, stored, same⟩ := kind?_eq_some_iff.mp found
  exact kind?_eq_some_iff.mpr ⟨entry, accepted.info?_eq_some stored, same⟩

structure Extensible (table : ClassTable) (name : TypeName) : Prop where
  plain : name.isArray = false
  entry : ∃ entry, table.info? name = some entry ∧ entry.kind ≠ .interface

theorem Extensible.extendedBy (extensible : table.Extensible name)
    (accepted : table.Accepts draft) : (table.extendedBy draft).Extensible name where
  plain := extensible.plain
  entry := by
    obtain ⟨entry, found, kind⟩ := extensible.entry
    exact ⟨entry, accepted.info?_eq_some found, kind⟩

/-- What the order of declarations promises about an entry: every reference goes to an earlier type
    of a fitting kind, and only the root is a class without a superclass. -/
structure Stratified (table : ClassTable) (name : TypeName) (entry : ClassEntry) : Prop where
  superclass : ∀ superclass, entry.superclass = some superclass →
    table.Precedes superclass name ∧ table.Extensible superclass
  interfaces : ∀ interface ∈ entry.interfaces,
    table.Precedes interface name ∧ interface.isArray = false ∧
      table.kind? interface = some .interface
  enclosing : ∀ outer, entry.enclosing = some outer → table.Precedes outer name
  unextended : entry.kind = .interface → entry.superclass = none
  rooted : entry.kind ≠ .interface → entry.superclass = none → name = .object

theorem Stratified.extendedBy (stratified : table.Stratified name entry)
    (accepted : table.Accepts draft) (declared : table.declares name = true) :
    (table.extendedBy draft).Stratified name entry where
  superclass superclass written := by
    obtain ⟨precedes, extensible⟩ := stratified.superclass superclass written
    exact ⟨accepted.precedes precedes declared, extensible.extendedBy accepted⟩
  interfaces interface member := by
    obtain ⟨precedes, plain, kind⟩ := stratified.interfaces interface member
    exact ⟨accepted.precedes precedes declared, plain, accepted.kind?_eq_some kind⟩
  enclosing outer written := accepted.precedes (stratified.enclosing outer written) declared
  unextended := stratified.unextended
  rooted := stratified.rooted

theorem Accepts.stratified (accepted : table.Accepts draft) :
    (table.extendedBy draft).Stratified draft.self (table.entryOf draft) where
  superclass superclass written := by
    obtain ⟨supertype, effective, rfl⟩ := Option.map_eq_some_iff.mp written
    obtain ⟨fits, kind, plain⟩ := accepted.superclass supertype effective
    obtain ⟨entry, found⟩ := exists_info? fits.declared plain
    have extensible : table.Extensible supertype.raw :=
      ⟨plain, entry, found, fun interface => kind (kind?_eq_some_iff.mpr ⟨entry, found, interface⟩)⟩
    exact ⟨accepted.precedes_self fits.declared, extensible.extendedBy accepted⟩
  interfaces interface member := by
    obtain ⟨supertype, written, rfl⟩ := List.mem_map.mp member
    obtain ⟨fits, kind⟩ := accepted.interfaces supertype written
    obtain ⟨entry, found, -⟩ := kind?_eq_some_iff.mp kind
    exact ⟨accepted.precedes_self fits.declared, (info?_eq_some_iff.mp found).1,
      accepted.kind?_eq_some kind⟩
  enclosing outer written := accepted.precedes_self (accepted.enclosing outer written)
  unextended kind := by
    rw [entryOf, Option.map_eq_none_iff]
    exact Draft.effectiveSuperclass_eq_none_iff.mpr kind
  rooted kind written := by
    rw [entryOf, Option.map_eq_none_iff] at written
    exact absurd (Draft.effectiveSuperclass_eq_none_iff.mp written) kind

theorem stratified_initial (found : initial.info? name = some entry) :
    initial.Stratified name entry := by
  rcases info?_initial.mp found with ⟨rfl, rfl⟩ | ⟨rfl, rfl⟩
  · exact ⟨by simp [objectEntry], by simp [objectEntry], by simp [objectEntry],
      by simp [objectEntry], fun _ _ => rfl⟩
  · have precedes : initial.Precedes .object .enum := ⟨by decide, by decide⟩
    have extensible : initial.Extensible .object :=
      ⟨rfl, objectEntry, info?_initial.mpr (.inl ⟨rfl, rfl⟩), by decide⟩
    refine ⟨?_, by simp [enumEntry], by simp [enumEntry], by simp [enumEntry], by simp [enumEntry]⟩
    rintro _ ⟨⟩
    exact ⟨precedes, extensible⟩

theorem Reachable.stratified (reachable : Reachable table)
    (found : table.info? name = some entry) : table.Stratified name entry := by
  refine Reachable.invariant (P := fun table => ∀ name entry, table.info? name = some entry →
    table.Stratified name entry) (fun _ _ => stratified_initial) ?_ reachable name entry found
  intro table declaration _ ih accepted name entry found
  rcases accepted.info?_extendedBy_eq_some_iff.mp found with ⟨rfl, rfl⟩ | found
  · exact accepted.stratified
  · exact (ih name entry found).extendedBy accepted (declares_of_info? found)

theorem Reachable.info?_object (reachable : Reachable table) :
    table.info? .object = some objectEntry := by
  obtain ⟨declarations, rfl⟩ := reachable_iff_attemptAll.mp reachable
  exact info?_attemptAll declarations (info?_initial.mpr (.inl ⟨rfl, rfl⟩))

end ClassTable

end GenericTypes
