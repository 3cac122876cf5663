import GenericTypes.Instantiate
import GenericTypes.Proofs.ClassTable.Growth

namespace GenericTypes

def ClassEntry.Reports (entry : ClassEntry) (t : TypeExpr TypeName) : Prop :=
  entry.genericSuperclass = some t ∨ t ∈ entry.genericInterfaces

namespace ClassTable

variable {table grown : ClassTable} {name raw : TypeName} {t : TypeExpr TypeName}
  {owner : Option (TypeExpr TypeName)} {args : List (TypeExpr TypeName)}

def Reports (table : ClassTable) (name : TypeName) (t : TypeExpr TypeName) : Prop :=
  table.genericSuperclass? name = some t ∨ t ∈ table.genericInterfaces name

instance : Decidable (table.Reports name t) := inferInstanceAs (Decidable (_ ∨ _))

theorem reports_iff :
    table.Reports name t ↔ (name.isArray = true ∧ t = .nominal .object) ∨
      ∃ entry, table.info? name = some entry ∧ entry.Reports t := by
  unfold Reports genericSuperclass? genericInterfaces ClassEntry.Reports
  cases array : name.isArray with
  | true => simp [info?, array, eq_comm]
  | false =>
    cases found : table.info? name <;> simp

theorem reports_parameterized_iff :
    table.Reports name (.parameterized owner raw args) ↔
      ∃ entry, table.info? name = some entry ∧ entry.Reports (.parameterized owner raw args) := by
  simp [reports_iff]

/-- An instantiation that fits the declaration of its raw type: as many arguments as parameters, and
    the enclosing type for an owner. -/
def Instantiates (table : ClassTable) (owner : Option (TypeExpr TypeName)) (raw : TypeName)
    (args : List (TypeExpr TypeName)) : Prop :=
  ∃ entry, table.info? raw = some entry ∧ args.length = entry.typeParams ∧
    owner = entry.enclosing.map .nominal

theorem Instantiates.mono (instantiates : table.Instantiates owner raw args)
    (kept : ∀ entry, table.info? raw = some entry → grown.info? raw = some entry) :
    grown.Instantiates owner raw args := by
  obtain ⟨entry, found, fits⟩ := instantiates
  exact ⟨entry, kept entry found, fits⟩

theorem Instantiates.instantiateIn (instantiates : table.Instantiates owner raw args) :
    table.host.instantiateIn none raw args = .ok (.parameterized owner raw args) := by
  obtain ⟨entry, found, arity, rfl⟩ := instantiates
  have expected : table.host.arity raw = args.length := by
    simp [host, typeParams, found, arity]
  have enclosing : table.host.enclosing raw = entry.enclosing := by
    simp [host, enclosing?, found]
  simp [Host.instantiateIn, Host.resolveOwner, expected, enclosing, Except.map]

theorem AcceptsSupertype.instantiates {own : TypeName} {supertype : Supertype}
    (accepted : table.AcceptsSupertype own supertype) (plain : supertype.raw.isArray = false)
    (reported : table.reflected supertype = .parameterized owner raw args) :
    table.Instantiates owner raw args := by
  obtain ⟨_, written⟩ := supertype
  cases written with
  | none => simp [reflected] at reported
  | some written =>
    simp only [reflected, TypeExpr.parameterized.injEq] at reported
    obtain ⟨rfl, rfl, rfl⟩ := reported
    obtain ⟨entry, found⟩ := exists_info? accepted.declared plain
    have arity := accepted.arity _ rfl
    simp only [typeParams, found, Option.map_some, Option.getD_some] at arity
    exact ⟨entry, found, arity, by simp [enclosing?, found]⟩

theorem Accepts.exists_reflected {draft : Draft} (accepted : table.Accepts draft)
    (reported : (table.entryOf draft).Reports t) :
    ∃ supertype, (draft.effectiveSuperclass = some supertype ∨ supertype ∈ draft.interfaces) ∧
      table.AcceptsSupertype draft.self supertype ∧ supertype.raw.isArray = false ∧
      table.reflected supertype = t := by
  simp only [ClassEntry.Reports, entryOf, Option.map_eq_some_iff, List.mem_map] at reported
  rcases reported with ⟨supertype, written, same⟩ | ⟨supertype, written, same⟩
  · obtain ⟨fits, -, plain⟩ := accepted.superclass supertype written
    exact ⟨supertype, .inl written, fits, plain, same⟩
  · obtain ⟨fits, kind⟩ := accepted.interfaces supertype written
    obtain ⟨entry, found, -⟩ := kind?_eq_some_iff.mp kind
    exact ⟨supertype, .inr written, fits, (info?_eq_some_iff.mp found).1, same⟩

theorem Accepts.instantiates {draft : Draft} (accepted : table.Accepts draft)
    (reported : (table.entryOf draft).Reports (.parameterized owner raw args)) :
    table.Instantiates owner raw args := by
  obtain ⟨supertype, -, fits, plain, same⟩ := accepted.exists_reflected reported
  exact fits.instantiates plain same

theorem Reachable.instantiates (reachable : Reachable table)
    (reported : table.Reports name (.parameterized owner raw args)) :
    table.Instantiates owner raw args := by
  obtain ⟨entry, found, reported⟩ := reports_parameterized_iff.mp reported
  cases reachable.origin found with
  | object => simp [ClassEntry.Reports, objectEntry] at reported
  | enum => simp [ClassEntry.Reports, enumEntry] at reported
  | declared accepted kept => exact (accepted.instantiates reported).mono (kept raw)

/-- The host rebuilds a reported instantiation, in its table and in every later one, exactly when it
    has arguments: from no arguments the host builds the raw type itself. -/
theorem instantiate_reported_iff (reachable : Reachable table)
    (reported : table.Reports name (.parameterized owner raw args)) (later : List Declaration) :
    (table.attemptAll later).host.instantiate raw args = .ok (.parameterized owner raw args) ↔
      args ≠ [] := by
  have instantiates : (table.attemptAll later).Instantiates owner raw args :=
    (reachable.instantiates reported).mono fun _ => info?_attemptAll later
  cases args with
  | nil => simp [Host.instantiate]
  | cons arg rest => simpa [Host.instantiate] using instantiates.instantiateIn

theorem instantiate_reported_entry :
    let nested : List Declaration :=
      [⟨.interface, "Map", [.typeParams 2]⟩,
        ⟨.interface, "Entry", [.nestedIn (.plain "Map"), .typeParams 1]⟩,
        ⟨.plainClass, "A",
          [.implementing ⟨.plain "Map.Entry", some [.wildcard [] [.nominal (.plain "A")]]⟩]⟩]
    let reported : TypeExpr TypeName :=
      .parameterized (some (.nominal (.plain "Map"))) (.plain "Map.Entry")
        [.wildcard [] [.nominal (.plain "A")]]
    let later : List Declaration := [⟨.plainClass, "Map", []⟩, ⟨.plainClass, "B", []⟩]
    let table := initial.attemptAll nested
    Reachable table ∧ table.Reports (.plain "A") reported ∧
      (table.attemptAll later).host.instantiate (.plain "Map.Entry")
        [.wildcard [] [.nominal (.plain "A")]] = .ok reported := by
  intro nested reported later table
  have reachable : Reachable table := Reachable.initial.attemptAll nested
  have found : table.Reports (.plain "A") reported := by decide +kernel
  exact ⟨reachable, found, (instantiate_reported_iff reachable found later).mpr (by simp)⟩

/-- A class that extends the empty instantiation of a type without parameters reports an
    instantiation, which the host does not build. -/
theorem instantiate_reported_empty :
    let table := initial.attemptAll
      [⟨.plainClass, "A", []⟩, ⟨.plainClass, "B", [.extending ⟨.plain "A", some []⟩]⟩]
    Reachable table ∧ table.Reports (.plain "B") (.parameterized none (.plain "A") []) ∧
      table.host.instantiate (.plain "A") [] = .ok (.nominal (.plain "A")) ∧
      (.nominal (.plain "A") : TypeExpr TypeName) ≠ .parameterized none (.plain "A") [] := by
  intro table
  exact ⟨Reachable.initial.attemptAll _, by decide +kernel, rfl, by decide⟩

end ClassTable

end GenericTypes
