import GenericTypes.Proofs.ClassTable.Hierarchy

namespace GenericTypes.ClassTable

variable {table : ClassTable} {name sub sup upper : TypeName} {bound : Nat}

/-- What the declarations and the rule for the root say about supertypes. -/
inductive DirectSupertype (table : ClassTable) (sub : TypeName) : TypeName → Prop where
  | superclass {sup : TypeName} (extended : table.host.DirectSuperclass sub sup) :
      table.DirectSupertype sub sup
  | interface {sup : TypeName} (implemented : table.host.DirectInterface sub sup) :
      table.DirectSupertype sub sup
  | object : table.DirectSupertype sub .object

/-- The declared types, and all arrays. -/
def KnownType (table : ClassTable) : Type :=
  {name : TypeName // name.isArray = true ∨ table.declares name = true}

theorem Reachable.isRoot_of_interface (reachable : Reachable table)
    (implemented : table.host.DirectInterface name upper) : table.host.isRoot name = false := by
  have member : upper ∈ table.interfaces name := implemented
  cases found : table.info? name with
  | none => simp [interfaces, found] at member
  | some entry =>
    rw [← Bool.not_eq_true, reachable.isRoot_iff (declares_of_info? found)]
    rintro rfl
    obtain rfl := Option.some.inj (reachable.info?_object.symm.trans found)
    simp [interfaces, found, objectEntry] at member

theorem Reachable.superclass?_of_interface (reachable : Reachable table)
    (interface : table.kind? name = some .interface) : table.superclass? name = none := by
  obtain ⟨entry, found, kind⟩ := kind?_eq_some_iff.mp interface
  rw [superclass?_of_info? found]
  exact (reachable.stratified found).unextended kind

theorem Reachable.superclass?_of_not_proper (reachable : Reachable table) (name : TypeName)
    (stops : table.host.isProperClass name = false) : table.superclass? name = none := by
  by_cases root : table.host.isRoot name = true
  · exact (host_isRoot.mp root).2
  · apply reachable.superclass?_of_interface
    rw [← host_isInterface]
    simpa [Host.isProperClass, root] using stops

theorem Reachable.extensible_superclass (reachable : Reachable table)
    (extended : table.superclass? name = some upper) : table.Extensible upper := by
  cases array : name.isArray with
  | true =>
    obtain rfl : TypeName.object = upper := by simpa [superclass?_of_array array] using extended
    exact ⟨rfl, objectEntry, reachable.info?_object, by decide⟩
  | false => exact (reachable.superclass?_eq_some array extended).2

theorem Extensible.isInterface_eq_false (extensible : table.Extensible name) :
    table.host.isInterface name = false := by
  obtain ⟨entry, found, kind⟩ := extensible.entry
  rw [← Bool.not_eq_true, host_isInterface, kind?_eq_some_iff]
  rintro ⟨stored, again, interface⟩
  obtain rfl := Option.some.inj (found.symm.trans again)
  exact kind interface

theorem Reachable.declares_supertype (reachable : Reachable table)
    (direct : table.DirectSupertype sub sup) : table.declares sup = true := by
  cases direct with
  | superclass extended =>
    obtain ⟨entry, found, -⟩ := (reachable.extensible_superclass extended).entry
    exact declares_of_info? found
  | interface implemented => exact (reachable.mem_interfaces implemented).1.declared
  | object => exact declares_of_info? reachable.info?_object

theorem Reachable.isRoot_known_iff (reachable : Reachable table) (known : table.KnownType) :
    table.host.isRoot known.1 = true ↔ known.1 = .object := by
  obtain ⟨name, array | declared⟩ := known
  · have notRoot : table.host.isRoot name ≠ true := by
      simp [host_isRoot, superclass?_of_array array]
    have notObject : name ≠ .object := by
      rintro rfl
      cases array
    exact iff_of_false notRoot notObject
  · exact reachable.isRoot_iff declared

theorem Reachable.mem_of_superclass_path (reachable : Reachable table) {classes : List TypeName}
    (chain : table.host.Chain (some sub) classes)
    (path : Relation.ReflTransGen table.host.DirectSuperclass sub upper) :
    upper ∈ sub :: classes ∨ table.host.isRoot upper = true := by
  cases path with
  | refl => simp
  | @tail lower _ path extended =>
    cases root : table.host.isRoot upper with
    | true => simp
    | false =>
      have notInterface := (reachable.extensible_superclass extended).isInterface_eq_false
      have onChain := (chain.mem_iff_path reachable.superclass?_of_not_proper).mpr
        ⟨Host.isProperClass_iff.mpr ⟨notInterface, root⟩, path.tail extended⟩
      simp [onChain]

theorem Reachable.isSubtype_iff_paths (reachable : Reachable table)
    (enough : table.walkBound ≤ bound) (sub sup : table.KnownType) :
    table.host.isSubtype bound sub.1 sup.1 = true ↔ sup.1 = .object ∨
      ∃ c, Relation.ReflTransGen table.host.DirectSuperclass sub.1 c ∧
        Relation.ReflTransGen table.host.DirectInterface c sup.1 := by
  obtain ⟨classes, chain, short⟩ := reachable.exists_chain sub.1
  rw [chain.isSubtype_iff (short.trans_le enough) reachable.declaredTypes_closed
    (fun _ _ _ => reachable.interfaces_declared) (table.card_declaredTypes_lt.trans_le enough),
    reachable.isRoot_known_iff]
  have reached {c : TypeName} (onChain : c ∈ classes) :
      Relation.ReflTransGen table.host.DirectSuperclass sub.1 c :=
    ((chain.mem_iff_path reachable.superclass?_of_not_proper).mp onChain).2
  constructor
  · rintro (same | object | onChain | ⟨c, start, -, ancestor⟩)
    · exact .inr ⟨sub.1, .refl, same ▸ .refl⟩
    · exact .inl object
    · exact .inr ⟨sup.1, reached onChain, .refl⟩
    · rcases List.mem_cons.mp start with rfl | onChain
      · exact .inr ⟨sub.1, .refl, ancestor.to_reflTransGen⟩
      · exact .inr ⟨c, reached onChain, ancestor.to_reflTransGen⟩
  · rintro (object | ⟨c, superclasses, interfaces⟩)
    · exact .inr (.inl object)
    · have start := reachable.mem_of_superclass_path chain superclasses
      rcases Relation.reflTransGen_iff_eq_or_transGen.mp interfaces with same | ancestor
      · obtain rfl : sup.1 = c := same
        rw [reachable.isRoot_known_iff, List.mem_cons] at start
        rcases start with (same | onChain) | object
        · exact .inl same.symm
        · exact .inr (.inr (.inl onChain))
        · exact .inr (.inl object)
      · -- What lists an interface is not the root, so the path does not start there.
        obtain ⟨_, implemented, -⟩ := Relation.TransGen.head'_iff.mp ancestor
        have below := reachable.isRoot_of_interface implemented
        exact .inr (.inr (.inr ⟨c, start.resolve_right (by simp [below]), below, ancestor⟩))

theorem Reachable.eq_object_of_supertype (reachable : Reachable table)
    (direct : table.DirectSupertype .object sup) : sup = .object := by
  cases direct with
  | superclass extended =>
    have written : table.superclass? .object = some sup := extended
    simp [reachable.superclass?_object] at written
  | interface implemented =>
    have below := reachable.isRoot_of_interface implemented
    have declared := declares_of_info? reachable.info?_object
    simp [(reachable.isRoot_iff declared).mpr rfl] at below
  | object => rfl

/-- Direct supertypes lead to the root, or along superclasses first and then along interfaces: an
    interface has no superclass. -/
theorem Reachable.exists_sorted_path (reachable : Reachable table)
    (path : Relation.ReflTransGen table.DirectSupertype sub sup) :
    sup = .object ∨ ∃ c, Relation.ReflTransGen table.host.DirectSuperclass sub c ∧
      Relation.ReflTransGen table.host.DirectInterface c sup := by
  induction path with
  | refl => exact .inr ⟨sub, .refl, .refl⟩
  | @tail mid sup _ direct ih =>
    rcases ih with rfl | ⟨c, superclasses, interfaces⟩
    · exact .inl (reachable.eq_object_of_supertype direct)
    cases direct with
    | superclass extended =>
      cases interfaces with
      | refl => exact .inr ⟨sup, superclasses.tail extended, .refl⟩
      | tail _ implemented =>
        obtain ⟨-, -, interface⟩ := reachable.mem_interfaces implemented
        have written : table.superclass? mid = some sup := extended
        simp [reachable.superclass?_of_interface interface] at written
    | interface implemented => exact .inr ⟨c, superclasses, interfaces.tail implemented⟩
    | object => exact .inl rfl

theorem Reachable.isSubtype_iff_path (reachable : Reachable table)
    (enough : table.walkBound ≤ bound) (sub sup : table.KnownType) :
    table.host.isSubtype bound sub.1 sup.1 = true ↔
      Relation.ReflTransGen table.DirectSupertype sub.1 sup.1 := by
  rw [reachable.isSubtype_iff_paths enough]
  constructor
  · rintro (object | ⟨c, superclasses, interfaces⟩)
    · rw [object]
      exact .single .object
    · exact (Relation.ReflTransGen.mono (fun _ _ => .superclass) _ _ superclasses).trans
        (Relation.ReflTransGen.mono (fun _ _ => .interface) _ _ interfaces)
  · exact reachable.exists_sorted_path

theorem Reachable.precedes_of_supertype (reachable : Reachable table)
    (direct : table.DirectSupertype sub sup) : sup = .object ∨ table.Precedes sup sub := by
  cases direct with
  | superclass extended =>
    cases array : sub.isArray with
    | true =>
      have written : table.superclass? sub = some sup := extended
      exact .inl (by simpa [superclass?_of_array array] using written.symm)
    | false => exact .inr (reachable.superclass?_eq_some array extended).1
  | interface implemented => exact .inr (reachable.mem_interfaces implemented).1
  | object => exact .inl rfl

theorem Reachable.supertype_cases (reachable : Reachable table)
    (path : Relation.ReflTransGen table.DirectSupertype sub sup) :
    sup = sub ∨ sup = .object ∨ table.rank sup.element < table.rank sub.element := by
  induction path with
  | refl => exact .inl rfl
  | @tail mid sup _ direct ih =>
    rcases ih with rfl | rfl | lower
    · exact .inr ((reachable.precedes_of_supertype direct).imp_right Precedes.rank_lt)
    · exact .inr (.inl (reachable.eq_object_of_supertype direct))
    · rcases reachable.precedes_of_supertype direct with object | precedes
      · exact .inr (.inl object)
      · exact .inr (.inr (precedes.rank_lt.trans lower))

theorem Reachable.eq_object_of_path (reachable : Reachable table)
    (path : Relation.ReflTransGen table.DirectSupertype .object sup) : sup = .object := by
  induction path with
  | refl => rfl
  | tail _ direct ih => exact reachable.eq_object_of_supertype (ih ▸ direct)

theorem Reachable.path_antisymm (reachable : Reachable table)
    (path : Relation.ReflTransGen table.DirectSupertype sub sup)
    (back : Relation.ReflTransGen table.DirectSupertype sup sub) : sub = sup := by
  rcases reachable.supertype_cases path with same | rfl | lower
  · exact same.symm
  · exact reachable.eq_object_of_path back
  rcases reachable.supertype_cases back with same | rfl | higher
  · exact same
  · exact (reachable.eq_object_of_path path).symm
  · exact absurd higher (Nat.lt_asymm lower)

theorem Reachable.path_known (reachable : Reachable table) {sub sup : table.KnownType}
    (path : Relation.ReflTransGen table.DirectSupertype sub.1 sup.1) :
    Relation.ReflTransGen
      (fun sub sup : table.KnownType => table.DirectSupertype sub.1 sup.1) sub sup := by
  obtain ⟨sub, knownSub⟩ := sub
  obtain ⟨sup, knownSup⟩ := sup
  dsimp only at path
  induction path using Relation.ReflTransGen.head_induction_on with
  | refl => exact .refl
  | @head lower upper direct _ ih =>
    exact .head (b := ⟨upper, .inr (reachable.declares_supertype direct)⟩) direct (ih _)

/-- On the declared types and the arrays, subtyping is the partial order that superclasses,
    interfaces and the root generate. -/
theorem isSubtype_partial_order (reachable : Reachable table)
    (enough : table.walkBound ≤ bound) :
    (∀ sub sup, table.host.subtypeSearch bound sub sup ≠ .unfinished) ∧
    (∀ type : table.KnownType, table.host.isSubtype bound type.1 type.1 = true) ∧
    (∀ sub sup : table.KnownType, table.host.isSubtype bound sub.1 sup.1 = true →
      table.host.isSubtype bound sup.1 sub.1 = true → sub = sup) ∧
    (∀ sub mid sup : table.KnownType, table.host.isSubtype bound sub.1 mid.1 = true →
      table.host.isSubtype bound mid.1 sup.1 = true →
      table.host.isSubtype bound sub.1 sup.1 = true) ∧
    ∀ sub sup : table.KnownType, table.host.isSubtype bound sub.1 sup.1 = true ↔
      Relation.ReflTransGen
        (fun sub sup : table.KnownType => table.DirectSupertype sub.1 sup.1) sub sup := by
  have test := reachable.isSubtype_iff_path enough
  refine ⟨?_, fun type => ?_, fun sub sup => ?_, fun sub mid sup => ?_, fun sub sup => ?_⟩
  · exact reachable.subtypeSearch_ne_unfinished enough
  · exact (test type type).mpr .refl
  · rw [test, test]
    exact fun path back => Subtype.ext (reachable.path_antisymm path back)
  · rw [test, test, test]
    exact .trans
  · rw [test]
    refine ⟨reachable.path_known, fun path => ?_⟩
    exact Relation.ReflTransGen.lift Subtype.val (fun _ _ direct => direct) _ _ path

def palette : ClassTable :=
  initial.attemptAll
    [⟨.interface, "Shape", []⟩,
      ⟨.plainClass, "Base", [.implementing ⟨.plain "Shape", none⟩]⟩,
      ⟨.plainClass, "Derived", [.extending ⟨.plain "Base", none⟩]⟩,
      ⟨.enum, "Color", [.implementing ⟨.plain "Shape", none⟩]⟩]

theorem isSubtype_orders_palette :
    Reachable palette ∧
      (∀ sub sup : palette.KnownType, palette.host.isSubtype palette.walkBound sub.1 sup.1 = true →
        palette.host.isSubtype palette.walkBound sup.1 sub.1 = true → sub = sup) ∧
      ∀ sub sup : palette.KnownType, palette.host.isSubtype palette.walkBound sub.1 sup.1 = true ↔
        Relation.ReflTransGen
          (fun sub sup : palette.KnownType => palette.DirectSupertype sub.1 sup.1) sub sup := by
  have reachable : Reachable palette := Reachable.initial.attemptAll _
  obtain ⟨-, -, antisymm, -, paths⟩ := isSubtype_partial_order reachable le_rfl
  exact ⟨reachable, antisymm, paths⟩

example :
    let names : List TypeName :=
      [.plain "Shape", .plain "Base", .plain "Derived", .plain "Color", .array (.plain "Color"),
        .enum, .object]
    names.map (fun sub => names.filter (palette.host.isSubtype palette.walkBound sub)) =
      [[.plain "Shape", .object], [.plain "Shape", .plain "Base", .object],
        [.plain "Shape", .plain "Base", .plain "Derived", .object],
        [.plain "Shape", .plain "Color", .enum, .object], [.array (.plain "Color"), .object],
        [.enum, .object], [.object]] := by
  decide +kernel

end GenericTypes.ClassTable
