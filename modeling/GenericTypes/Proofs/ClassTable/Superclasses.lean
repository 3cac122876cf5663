import GenericTypes.Proofs.ClassTable.Hierarchy
import GenericTypes.Proofs.ClassTable.Requirements

namespace GenericTypes.ClassTable

variable {table : ClassTable} {declaration : Declaration} {supertype superclass : Supertype}
  {own name : TypeName} {entry : ClassEntry}

theorem unknownFault_ne_notAClass (declared : TypeName) :
    table.unknownFault declared ≠ some (.notAClass name) := by
  unfold unknownFault
  split <;> simp

theorem argumentFault_ne_notAClass (arg : TypeExpr TypeName) :
    table.argumentFault own arg ≠ some (.notAClass name) := by
  intro fault
  obtain ⟨mentioned, -, found⟩ := List.exists_of_findSome?_eq_some fault
  split at found
  · cases found
  · exact unknownFault_ne_notAClass mentioned found

theorem supertypeFault_ne_notAClass :
    table.supertypeFault own supertype ≠ some (.notAClass name) := by
  intro fault
  rcases (Option.orElse_eq_some ..).mp fault with unknown | ⟨-, instantiated⟩
  · exact unknownFault_ne_notAClass _ unknown
  · obtain ⟨args, -, fault⟩ := Option.bind_eq_some_iff.mp instantiated
    dsimp only at fault
    split at fault
    · cases fault
    · obtain ⟨arg, -, found⟩ := List.exists_of_findSome?_eq_some fault
      exact argumentFault_ne_notAClass arg found

theorem interfaceFault_ne_notAClass :
    table.interfaceFault own supertype ≠ some (.notAClass name) := by
  intro fault
  rcases (Option.orElse_eq_some ..).mp fault with supertype | ⟨-, kind⟩
  · exact supertypeFault_ne_notAClass supertype
  · split at kind <;> cases kind

theorem superclassFault_eq_notAClass_iff :
    table.superclassFault own supertype = some (.notAClass name) ↔
      table.AcceptsSupertype own supertype ∧ supertype.raw = name ∧
        (table.kind? name = some .interface ∨ name.isArray = true) := by
  rw [superclassFault, Option.orElse_eq_some, supertypeFault_eq_none_iff]
  constructor
  · intro fault
    rcases fault with fault | ⟨accepted, kind⟩
    · exact absurd fault supertypeFault_ne_notAClass
    · split at kind
      case isTrue unfit =>
        cases kind
        exact ⟨accepted, rfl, by simpa using unfit⟩
      case isFalse => cases kind
  · rintro ⟨accepted, rfl, unfit⟩
    exact .inr ⟨accepted, if_pos (by simpa using unfit)⟩

theorem firstFault_eq_notAClass_iff :
    table.firstFault declaration.draft = some (.notAClass name) ↔
      table.declares declaration.self = false ∧ declaration.SingleSuperclass ∧
      (∀ outer, declaration.outer? = some outer → table.declares outer = true) ∧
      ∃ superclass, declaration.superclass? = some superclass ∧
        table.AcceptsSupertype declaration.self superclass ∧ superclass.raw = name ∧
        (table.kind? name = some .interface ∨ name.isArray = true) := by
  have sums := Draft.sumsUp declaration
  rw [firstFault, sums.self_eq, sums.enclosing, sums.effectiveSuperclass_eq, sums.interfaces]
  simp only [Option.orElse_eq_some, Option.bind_eq_some_iff, superclassFault_eq_notAClass_iff]
  constructor
  · rintro
      (taken | ⟨fresh, overextended | ⟨single, unknown | ⟨enclosing, superclass | interfaces⟩⟩⟩)
    · split at taken <;> cases taken
    · split at overextended <;> cases overextended
    · obtain ⟨outer, -, fault⟩ := unknown
      exact absurd fault (unknownFault_ne_notAClass outer)
    · refine ⟨by simpa using fresh, sums.overextended.mp (by simpa using single), ?_, superclass⟩
      intro outer written
      rw [written, Option.bind_some, unknownFault_eq_none_iff] at enclosing
      exact enclosing
    · obtain ⟨interface, -, fault⟩ := List.exists_of_findSome?_eq_some interfaces.2
      exact absurd fault interfaceFault_ne_notAClass
  · rintro ⟨fresh, single, enclosing, superclass⟩
    have known : declaration.outer?.bind table.unknownFault = none :=
      Option.bind_eq_none_iff.mpr fun outer written =>
        unknownFault_eq_none_iff.mpr (enclosing outer written)
    exact .inr ⟨by simp [fresh], .inr ⟨by simp [sums.overextended.mpr single],
      .inr ⟨known, .inl superclass⟩⟩⟩

/-- A class names one superclass, and all is well with the declaration up to the kind of that. The
    interfaces are looked at later. -/
structure NamesSuperclass (table : ClassTable) (declaration : Declaration)
    (superclass : Supertype) : Prop where
  kind : declaration.kind = .plainClass
  extended : declaration.extended = [superclass]
  fresh : table.declares declaration.self = false
  outer : ∀ outer, declaration.outer? = some outer → table.declares outer = true
  accepted : table.AcceptsSupertype declaration.self superclass

theorem NamesSuperclass.single (names : table.NamesSuperclass declaration superclass) :
    declaration.SingleSuperclass := by
  simp [Declaration.SingleSuperclass, names.kind, names.extended]

theorem Reachable.declare_eq_notAClass_iff (reachable : Reachable table) :
    table.declare declaration = .error (.notAClass name) ↔
      ∃ superclass, table.NamesSuperclass declaration superclass ∧ superclass.raw = name ∧
        (table.kind? name = some .interface ∨ name.isArray = true) := by
  rw [declare_eq_error_iff, firstFault_eq_notAClass_iff]
  constructor
  · rintro ⟨fresh, single, outer, superclass, taken, accepted, rfl, unfit⟩
    have unfitFound : ∀ entry, table.info? superclass.raw = some entry →
        entry.kind = .interface := by
      intro entry found
      have plain := (info?_eq_some_iff.mp found).1
      simpa [kind?, found, plain] using unfit
    unfold Declaration.SingleSuperclass at single
    unfold Declaration.superclass? at taken
    cases kind : declaration.kind with
    | interface => simp [kind] at taken
    | enum =>
      simp only [kind, Option.some.injEq] at taken
      subst taken
      cases unfitFound _ reachable.info?_enum
    | plainClass =>
      simp only [kind, Option.some.injEq] at taken single
      cases extended : declaration.extended with
      | nil =>
        simp only [extended, List.head?_nil, Option.getD_none] at taken
        subst taken
        cases unfitFound _ reachable.info?_object
      | cons first rest =>
        obtain rfl : rest = [] := by simpa [extended] using single
        obtain rfl : first = superclass := by simpa [extended] using taken
        exact ⟨first, ⟨kind, extended, fresh, outer, accepted⟩, rfl, unfit⟩
  · rintro ⟨superclass, names, rfl, unfit⟩
    refine ⟨names.fresh, names.single, names.outer, superclass, ?_, names.accepted, rfl, unfit⟩
    simp [Declaration.superclass?, names.kind, names.extended]

theorem Reachable.superclass_of_enum (reachable : Reachable table)
    (found : table.info? name = some entry) (kind : entry.kind = .enum) :
    entry.superclass = some .enum := by
  cases reachable.origin found with
  | object | enum => cases kind
  | @declared before declaration accepted kept =>
    have isEnum : declaration.kind = .enum := (Draft.sumsUp declaration).kind.symm.trans kind
    rw [entryOf_draft, Declaration.superclass?, isEnum]
    rfl

theorem Reachable.exists_superclass_kind (reachable : Reachable table)
    (found : table.info? name = some entry) (kind : entry.kind ≠ .interface)
    (below : name ≠ .object) :
    ∃ superclass, entry.superclass = some superclass ∧ superclass.isArray = false ∧
      (table.kind? superclass = some .plainClass ∨
        entry.kind = .plainClass ∧ table.kind? superclass = some .enum) := by
  have stratified := reachable.stratified found
  cases written : entry.superclass with
  | none => exact absurd (stratified.rooted kind written) below
  | some superclass =>
    obtain ⟨-, extensible⟩ := stratified.superclass superclass written
    obtain ⟨stored, isStored, storedKind⟩ := extensible.entry
    have isKind : ∀ kind, stored.kind = kind → table.kind? superclass = some kind :=
      fun kind same => kind?_eq_some_iff.mpr ⟨stored, isStored, same⟩
    refine ⟨superclass, rfl, extensible.plain, ?_⟩
    cases superKind : stored.kind with
    | interface => exact absurd superKind storedKind
    | plainClass => exact .inl (isKind _ superKind)
    | enum =>
      refine .inr ⟨?_, isKind _ superKind⟩
      cases ownKind : entry.kind with
      | plainClass => rfl
      | interface => exact absurd ownKind kind
      | enum =>
        -- The superclass of an enum is seeded as a class.
        rw [reachable.superclass_of_enum found ownKind] at written
        cases written
        rw [reachable.info?_enum] at isStored
        cases isStored
        cases superKind

/-- An enum is no obstacle: a class that names one is declared with the enum as its superclass. -/
theorem NamesSuperclass.declares_below_enum (names : table.NamesSuperclass declaration superclass)
    (reachable : Reachable table) (kind : table.kind? superclass.raw = some .enum)
    (interfaces : ∀ interface ∈ declaration.listedInterfaces,
      table.AcceptsSupertype declaration.self interface ∧
        table.kind? interface.raw = some .interface) :
    ∃ grown, table.declare declaration = .ok (declaration.self, grown) ∧
      grown.superclass? declaration.self = some superclass.raw ∧
      grown.kind? superclass.raw = some .enum := by
  obtain ⟨stored, found, isEnum⟩ := kind?_eq_some_iff.mp kind
  have plain := (info?_eq_some_iff.mp found).1
  have legal : table.Legal declaration := by
    refine ⟨names.fresh, names.single, names.outer, fun _ named member => ?_, interfaces⟩
    obtain rfl : named = superclass := by simpa [names.extended] using member
    exact ⟨names.accepted, by simp [kind], plain⟩
  have accepted := (reachable.accepts_iff_legal declaration).mpr legal
  have self := (Draft.sumsUp declaration).self_eq
  refine ⟨_, declare_eq_ok_iff.mpr ⟨accepted, self.symm, rfl⟩, ?_, accepted.kind?_eq_some kind⟩
  have entry := accepted.info?_extendedBy_eq_some_iff.mpr (.inl ⟨self.symm, rfl⟩)
  rw [superclass?_of_info? entry, entryOf_draft, Declaration.superclass?, names.kind,
    names.extended]
  rfl

/-- A class or an enum below the root extends a class, and a class may extend an enum as well. The
    answer that something is not a class is for interfaces and arrays alone. -/
theorem superclasses_are_classes_or_enums (reachable : Reachable table) :
    (∀ name entry, table.info? name = some entry → entry.kind ≠ .interface → name ≠ .object →
      ∃ superclass, entry.superclass = some superclass ∧ superclass.isArray = false ∧
        (table.kind? superclass = some .plainClass ∨
          entry.kind = .plainClass ∧ table.kind? superclass = some .enum)) ∧
    (∀ declaration name, table.declare declaration = .error (.notAClass name) ↔
      ∃ superclass, table.NamesSuperclass declaration superclass ∧ superclass.raw = name ∧
        (table.kind? name = some .interface ∨ name.isArray = true)) ∧
    ∀ declaration superclass, table.NamesSuperclass declaration superclass →
      table.kind? superclass.raw = some .enum →
      (∀ interface ∈ declaration.listedInterfaces,
        table.AcceptsSupertype declaration.self interface ∧
          table.kind? interface.raw = some .interface) →
      ∃ grown, table.declare declaration = .ok (declaration.self, grown) ∧
        grown.superclass? declaration.self = some superclass.raw ∧
        grown.kind? superclass.raw = some .enum :=
  ⟨fun _ _ => reachable.exists_superclass_kind, fun _ _ => reachable.declare_eq_notAClass_iff,
    fun _ _ names => names.declares_below_enum reachable⟩

def levels : ClassTable := initial.attemptAll
  [⟨.enum, "Level", []⟩, ⟨.interface, "Named", [.typeParams 1]⟩]

theorem superclasses_are_classes_or_enums_levels :
    let level : TypeName := .plain "Level"
    let wrong : Declaration :=
      ⟨.plainClass, "Loud", [.extending ⟨.plain "Named", some [.nominal (.plain "Loud")]⟩]⟩
    Reachable levels ∧
      (∃ entry superclass, levels.info? level = some entry ∧ entry.superclass = some superclass ∧
        levels.kind? superclass = some .plainClass) ∧
      levels.declare wrong = .error (.notAClass (.plain "Named")) ∧
      ∃ superclass, levels.NamesSuperclass wrong superclass ∧ superclass.raw = .plain "Named" := by
  intro level wrong
  have reachable : Reachable levels := Reachable.initial.attemptAll _
  have failed : levels.declare wrong = .error (.notAClass (.plain "Named")) :=
    declare_eq_error_iff.mpr (by decide +kernel)
  have isEnum : levels.kind? level = some .enum := by decide +kernel
  obtain ⟨entry, found, kind⟩ := kind?_eq_some_iff.mp isEnum
  obtain ⟨recorded, answers, -⟩ := superclasses_are_classes_or_enums reachable
  obtain ⟨superclass, written, -, isClass | ⟨notEnum, -⟩⟩ :=
    recorded level entry found (by simp [kind]) (by decide)
  · obtain ⟨named, names, same, -⟩ := (answers wrong _).mp failed
    exact ⟨reachable, ⟨entry, superclass, found, written, isClass⟩, failed, named, names, same⟩
  · rw [kind] at notEnum
    cases notEnum

theorem enum_is_extended :
    let declaration : Declaration := ⟨.plainClass, "Loud", [.extending ⟨.plain "Level", none⟩]⟩
    Reachable levels ∧ levels.kind? (.plain "Level") = some .enum ∧
      ∃ grown, levels.declare declaration = .ok (.plain "Loud", grown) ∧
        Reachable grown ∧ grown.kind? (.plain "Loud") = some .plainClass ∧
        grown.superclass? (.plain "Loud") = some (.plain "Level") ∧
        grown.kind? (.plain "Level") = some .enum := by
  intro declaration
  have reachable : Reachable levels := Reachable.initial.attemptAll _
  have accepted : levels.Accepts declaration.draft := firstFault_eq_none_iff.mp (by decide +kernel)
  exact ⟨reachable, by decide +kernel, _, declare_eq_ok_iff.mpr ⟨accepted, by decide +kernel, rfl⟩,
    reachable.extendedBy accepted, by decide +kernel, by decide +kernel, by decide +kernel⟩

end GenericTypes.ClassTable
