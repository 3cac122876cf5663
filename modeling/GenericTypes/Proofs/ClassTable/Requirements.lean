import GenericTypes.Proofs.ClassTable.Clauses
import GenericTypes.Proofs.ClassTable.Order
import GenericTypes.Proofs.TypeExpr.Preorder

namespace GenericTypes

/-- A condition on a declaration, and the fault of a declaration that does not meet it. -/
structure Requirement where
  met : Prop
  fault : DeclareError

namespace Requirement

def FirstUnmet (requirements : List Requirement) : Option DeclareError → Prop
  | none => ∀ requirement ∈ requirements, requirement.met
  | some fault => ∃ before requirement after, requirements = before ++ requirement :: after ∧
      (∀ earlier ∈ before, earlier.met) ∧ ¬ requirement.met ∧ fault = requirement.fault

variable {first second requirements : List Requirement} {requirement : Requirement}
  {fault other : Option DeclareError}

theorem FirstUnmet.nil : FirstUnmet [] none := by simp [FirstUnmet]

theorem FirstUnmet.of_met (met : requirement.met) : FirstUnmet [requirement] none := by
  simpa [FirstUnmet] using met

theorem FirstUnmet.of_unmet (unmet : ¬ requirement.met) :
    FirstUnmet [requirement] (some requirement.fault) :=
  ⟨[], requirement, [], rfl, by simp, unmet, rfl⟩

theorem FirstUnmet.append (unmet : FirstUnmet first fault) (unmetLater : FirstUnmet second other) :
    FirstUnmet (first ++ second) (fault <|> other) := by
  cases fault with
  | some fault =>
    obtain ⟨before, requirement, after, rfl, met, failed, same⟩ := unmet
    exact ⟨before, requirement, after ++ second, by simp, met, failed, same⟩
  | none =>
    cases other with
    | none =>
      intro requirement member
      rcases List.mem_append.mp member with member | member
      · exact unmet requirement member
      · exact unmetLater requirement member
    | some other =>
      obtain ⟨before, requirement, after, rfl, met, failed, same⟩ := unmetLater
      refine ⟨first ++ before, requirement, after, by simp, ?_, failed, same⟩
      intro earlier member
      rcases List.mem_append.mp member with member | member
      · exact unmet earlier member
      · exact met earlier member

theorem FirstUnmet.flatMap {α : Type} {items : List α} {requirements : α → List Requirement}
    {fault : α → Option DeclareError}
    (unmet : ∀ item, FirstUnmet (requirements item) (fault item)) :
    FirstUnmet (items.flatMap requirements) (items.findSome? fault) := by
  induction items with
  | nil => exact .nil
  | cons item rest ih =>
    have split : (item :: rest).findSome? fault = (fault item <|> rest.findSome? fault) := by
      cases found : fault item <;> simp [found]
    rw [List.flatMap_cons, split]
    exact (unmet item).append ih

theorem FirstUnmet.bind {α : Type} {item : Option α} {requirements : α → List Requirement}
    {fault : α → Option DeclareError}
    (unmet : ∀ item, FirstUnmet (requirements item) (fault item)) :
    FirstUnmet (item.toList.flatMap requirements) (item.bind fault) := by
  cases item with
  | none => exact .nil
  | some item => simpa using unmet item

end Requirement

namespace ClassTable

open Requirement

variable {table : ClassTable} {draft : Draft} {own : TypeName} {supertype : Supertype}
  {declaration : Declaration}

def known (table : ClassTable) (name : TypeName) : Requirement :=
  ⟨table.declares name = true, .unknown name⟩

/-- A type argument may name the type under declaration, but not its arrays. -/
def knownArgument (table : ClassTable) (own name : TypeName) : Requirement :=
  ⟨name = own ∨ table.declares name = true, .unknown name⟩

def counted (table : ClassTable) (raw : TypeName) (args : List (TypeExpr TypeName)) : Requirement :=
  ⟨args.length = table.typeParams raw, .argumentCount raw (table.typeParams raw) args.length⟩

def extensible (table : ClassTable) (name : TypeName) : Requirement :=
  ⟨table.kind? name ≠ some .interface ∧ name.isArray = false, .notAClass name⟩

def implementable (table : ClassTable) (name : TypeName) : Requirement :=
  ⟨table.kind? name = some .interface, .notAnInterface name⟩

def nodeRequirements (table : ClassTable) (own : TypeName) : TypeExpr TypeName → List Requirement
  | .nominal name => [table.knownArgument own name]
  | .parameterized _ raw _ => [table.knownArgument own raw]
  | .wildcard .. | .array .. | .intersection .. => []

/-- The nodes of an argument are checked in pre-order. -/
def argumentRequirements (table : ClassTable) (own : TypeName) (arg : TypeExpr TypeName) :
    List Requirement :=
  arg.nodes.flatMap (table.nodeRequirements own)

def supertypeRequirements (table : ClassTable) (own : TypeName) (supertype : Supertype) :
    List Requirement :=
  [table.known supertype.raw] ++ supertype.args.toList.flatMap fun args =>
    [table.counted supertype.raw args] ++ args.flatMap (table.argumentRequirements own)

/-- The name, the number of superclasses, the enclosing type, the superclass, and the interfaces in
    order. The kind of a supertype comes after its arguments. -/
def requirements (table : ClassTable) (declaration : Declaration) : List Requirement :=
  [⟨table.declares declaration.self = false, .duplicate declaration.self⟩] ++
  ([⟨declaration.SingleSuperclass, .multipleSuperclasses declaration.self⟩] ++
  ((declaration.outer?.toList.flatMap fun outer => [table.known outer]) ++
  ((declaration.superclass?.toList.flatMap fun superclass =>
    table.supertypeRequirements declaration.self superclass ++ [table.extensible superclass.raw]) ++
  (declaration.listedInterfaces.flatMap fun interface =>
    table.supertypeRequirements declaration.self interface ++
      [table.implementable interface.raw]))))

theorem unknownFault_firstUnmet (table : ClassTable) (name : TypeName) :
    FirstUnmet [table.known name] (table.unknownFault name) := by
  unfold unknownFault
  split
  · exact .of_met (by assumption)
  · exact .of_unmet (by assumption)

theorem knownArgument_firstUnmet (table : ClassTable) (own name : TypeName) :
    FirstUnmet [table.knownArgument own name]
      (if name = own then none else table.unknownFault name) := by
  by_cases same : name = own
  · rw [if_pos same]
    exact .of_met (.inl same)
  · rw [if_neg same]
    unfold unknownFault
    split
    · exact .of_met (.inr (by assumption))
    · exact .of_unmet (not_or.mpr ⟨same, by assumption⟩)

theorem argumentFault_firstUnmet (table : ClassTable) (own : TypeName) (arg : TypeExpr TypeName) :
    FirstUnmet (table.argumentRequirements own arg) (table.argumentFault own arg) := by
  unfold argumentFault
  rw [TypeExpr.findSome?_mentions]
  apply FirstUnmet.flatMap
  intro node
  cases node with
  | nominal name => exact table.knownArgument_firstUnmet own name
  | parameterized owner raw args => exact table.knownArgument_firstUnmet own raw
  | wildcard | array | intersection => exact .nil

theorem supertypeFault_firstUnmet (table : ClassTable) (own : TypeName) (supertype : Supertype) :
    FirstUnmet (table.supertypeRequirements own supertype)
      (table.supertypeFault own supertype) := by
  apply FirstUnmet.append (table.unknownFault_firstUnmet supertype.raw)
  apply FirstUnmet.bind
  intro args
  have arguments : FirstUnmet (args.flatMap (table.argumentRequirements own))
      (args.findSome? (table.argumentFault own)) :=
    .flatMap (table.argumentFault_firstUnmet own)
  by_cases fits : args.length = table.typeParams supertype.raw
  · simp only [fits, ne_eq, not_true_eq_false, ↓reduceIte]
    exact (FirstUnmet.of_met fits).append arguments
  · simp only [fits, ne_eq, not_false_eq_true, ↓reduceIte]
    exact (FirstUnmet.of_unmet fits).append arguments

theorem superclassFault_firstUnmet (table : ClassTable) (own : TypeName) (superclass : Supertype) :
    FirstUnmet (table.supertypeRequirements own superclass ++ [table.extensible superclass.raw])
      (table.superclassFault own superclass) := by
  apply (table.supertypeFault_firstUnmet own superclass).append
  by_cases fits : (table.extensible superclass.raw).met
  · rw [if_neg (by simpa [extensible] using fits)]
    exact .of_met fits
  · rw [if_pos (by simpa [extensible, or_iff_not_imp_left] using fits)]
    exact .of_unmet fits

theorem interfaceFault_firstUnmet (table : ClassTable) (own : TypeName) (interface : Supertype) :
    FirstUnmet (table.supertypeRequirements own interface ++ [table.implementable interface.raw])
      (table.interfaceFault own interface) := by
  apply (table.supertypeFault_firstUnmet own interface).append
  split
  · exact .of_met (by assumption)
  · exact .of_unmet (by assumption)

theorem firstFault_firstUnmet (table : ClassTable) (declaration : Declaration) :
    FirstUnmet (table.requirements declaration) (table.firstFault declaration.draft) := by
  have sums := Draft.sumsUp declaration
  unfold firstFault
  rw [sums.self_eq, sums.enclosing, sums.effectiveSuperclass_eq, sums.interfaces]
  refine .append ?_ (.append ?_ (.append ?_ (.append ?_ ?_)))
  · by_cases taken : table.declares declaration.self = true
    · rw [if_pos taken]
      exact .of_unmet (by simp [taken])
    · rw [if_neg taken]
      exact .of_met (eq_false_of_ne_true taken)
  · by_cases single : declaration.draft.overextended = true
    · rw [if_pos single]
      exact .of_unmet fun met => by simp [sums.overextended.mpr met] at single
    · rw [if_neg single]
      exact .of_met (sums.overextended.mp (eq_false_of_ne_true single))
  · exact .bind table.unknownFault_firstUnmet
  · exact .bind (table.superclassFault_firstUnmet declaration.self)
  · exact .flatMap (table.interfaceFault_firstUnmet declaration.self)

/-- What a table asks of a declaration. The superclass that a declaration does not write is left
    out, and so is every setting that a later one overwrites. -/
structure Legal (table : ClassTable) (declaration : Declaration) : Prop where
  fresh : table.declares declaration.self = false
  single : declaration.SingleSuperclass
  outer : ∀ outer, declaration.outer? = some outer → table.declares outer = true
  superclass : declaration.kind = .plainClass → ∀ superclass ∈ declaration.extended,
    table.AcceptsSupertype declaration.self superclass ∧
      table.kind? superclass.raw ≠ some .interface ∧ superclass.raw.isArray = false
  interfaces : ∀ interface ∈ declaration.listedInterfaces,
    table.AcceptsSupertype declaration.self interface ∧ table.kind? interface.raw = some .interface

theorem Reachable.info?_enum (reachable : Reachable table) :
    table.info? .enum = some enumEntry := by
  obtain ⟨declarations, rfl⟩ := reachable_iff_attemptAll.mp reachable
  exact info?_attemptAll declarations (info?_initial.mpr (.inr ⟨rfl, rfl⟩))

theorem kind?_ne_interface {name : TypeName} {entry : ClassEntry}
    (found : table.info? name = some entry) (kind : entry.kind ≠ .interface) :
    table.kind? name ≠ some .interface := by
  simpa [kind?, found] using kind

theorem Reachable.acceptsSupertype_object (reachable : Reachable table) (own : TypeName) :
    table.AcceptsSupertype own ⟨.object, none⟩ where
  declared := declares_of_info? reachable.info?_object
  arity := by simp
  known := by simp

theorem Reachable.acceptsSupertype_enum (reachable : Reachable table) (own : TypeName) :
    table.AcceptsSupertype own ⟨.enum, some [.nominal own]⟩ where
  declared := declares_of_info? reachable.info?_enum
  arity := by
    rintro _ ⟨⟩
    simp [typeParams, reachable.info?_enum, enumEntry]
  known := by
    rintro _ ⟨⟩ arg member
    obtain rfl := List.mem_singleton.mp member
    apply knows_iff_mentions.mpr
    intro name mentioned
    exact .inl (TypeExpr.mem_mentions_nominal.mp mentioned)

theorem Reachable.superclass_iff (reachable : Reachable table)
    (single : declaration.SingleSuperclass) :
    (∀ superclass, declaration.superclass? = some superclass →
      table.AcceptsSupertype declaration.self superclass ∧
        table.kind? superclass.raw ≠ some .interface ∧ superclass.raw.isArray = false) ↔
    (declaration.kind = .plainClass → ∀ superclass ∈ declaration.extended,
      table.AcceptsSupertype declaration.self superclass ∧
        table.kind? superclass.raw ≠ some .interface ∧ superclass.raw.isArray = false) := by
  unfold Declaration.SingleSuperclass at single
  unfold Declaration.superclass?
  cases kind : declaration.kind with
  | interface => simp
  | enum =>
    refine iff_of_true ?_ nofun
    rintro _ ⟨⟩
    exact ⟨reachable.acceptsSupertype_enum _,
      kind?_ne_interface reachable.info?_enum (by decide), rfl⟩
  | plainClass =>
    simp only [kind] at single
    cases written : declaration.extended with
    | nil =>
      refine iff_of_true ?_ (by simp)
      rintro _ ⟨⟩
      exact ⟨reachable.acceptsSupertype_object _,
        kind?_ne_interface reachable.info?_object (by decide), rfl⟩
    | cons first rest =>
      obtain rfl : rest = [] := by simpa [written] using single
      simp

theorem Reachable.accepts_iff_legal (reachable : Reachable table) (declaration : Declaration) :
    table.Accepts declaration.draft ↔ table.Legal declaration := by
  have sums := Draft.sumsUp declaration
  constructor
  · intro accepted
    obtain ⟨fresh, single, outer, superclass, interfaces⟩ := accepted
    rw [sums.self_eq] at fresh superclass interfaces
    rw [sums.enclosing] at outer
    rw [sums.effectiveSuperclass_eq] at superclass
    rw [sums.interfaces] at interfaces
    have single := sums.overextended.mp single
    exact ⟨fresh, single, outer, (reachable.superclass_iff single).mp superclass, interfaces⟩
  · intro legal
    obtain ⟨fresh, single, outer, superclass, interfaces⟩ := legal
    have superclass := (reachable.superclass_iff single).mpr superclass
    have single := sums.overextended.mpr single
    rw [← sums.self_eq] at fresh superclass interfaces
    rw [← sums.enclosing] at outer
    rw [← sums.effectiveSuperclass_eq] at superclass
    rw [← sums.interfaces] at interfaces
    exact ⟨fresh, single, outer, superclass, interfaces⟩

theorem entryOf_draft (table : ClassTable) (declaration : Declaration) :
    table.entryOf declaration.draft =
      { kind := declaration.kind
        superclass := declaration.superclass?.map Supertype.raw
        interfaces := declaration.listedInterfaces.map Supertype.raw
        enclosing := declaration.outer?
        typeParams := declaration.paramCount
        genericSuperclass := declaration.superclass?.map table.reflected
        genericInterfaces := declaration.listedInterfaces.map table.reflected } := by
  have sums := Draft.sumsUp declaration
  rw [entryOf, sums.kind, sums.effectiveSuperclass_eq, sums.interfaces, sums.enclosing,
    sums.typeParams]

theorem declare_eq_error_iff {fault : DeclareError} :
    table.declare declaration = .error fault ↔ table.firstFault declaration.draft = some fault := by
  rw [declare, register]
  cases table.firstFault declaration.draft <;> simp

/-- A declaration succeeds exactly if it is legal. Then its entry records what the clauses say, with
    the default superclass, and no other entry changes. Otherwise the fault is that of the first
    requirement that is not met. -/
theorem declare_iff_legal (reachable : Reachable table) (declaration : Declaration) :
    ((∃ self grown, table.declare declaration = .ok (self, grown)) ↔ table.Legal declaration) ∧
    (∀ self grown, table.declare declaration = .ok (self, grown) →
      self = declaration.self ∧
      grown = table.insert declaration.qualifiedName
        { kind := declaration.kind
          superclass := declaration.superclass?.map Supertype.raw
          interfaces := declaration.listedInterfaces.map Supertype.raw
          enclosing := declaration.outer?
          typeParams := declaration.paramCount
          genericSuperclass := declaration.superclass?.map table.reflected
          genericInterfaces := declaration.listedInterfaces.map table.reflected }) ∧
    ∀ fault, table.declare declaration = .error fault →
      FirstUnmet (table.requirements declaration) (some fault) := by
  refine ⟨?_, ?_, ?_⟩
  · rw [← reachable.accepts_iff_legal]
    constructor
    · rintro ⟨self, grown, declared⟩
      exact (declare_eq_ok_iff.mp declared).1
    · intro accepted
      exact ⟨_, _, declare_eq_ok_iff.mpr ⟨accepted, rfl, rfl⟩⟩
  · intro self grown declared
    obtain ⟨-, rfl, rfl⟩ := declare_eq_ok_iff.mp declared
    have sums := Draft.sumsUp declaration
    refine ⟨sums.self_eq, ?_⟩
    rw [extendedBy, sums.qualifiedName_eq, entryOf_draft]
  · intro fault failed
    have unmet := table.firstFault_firstUnmet declaration
    rwa [declare_eq_error_iff.mp failed] at unmet

/-- Over two interfaces and a class. The first declaration is legal: the last enclosing type and the
    last parameter count stand, and it mentions itself. The second one breaks four requirements: the
    argument count of its superclass, an argument of it, its kind, and the kind of its interface.
    The third one breaks two: a leaf deep inside an argument, and the kind of a later interface. -/
theorem declare_iff_legal_slot :
    let table := initial.attemptAll
      [⟨.interface, "Shelf", [.typeParams 1]⟩, ⟨.interface, "Named", []⟩, ⟨.plainClass, "Box", []⟩]
    let legal : Declaration :=
      ⟨.plainClass, "Slot",
        [.nestedIn (.plain "Missing"), .typeParams 7, .implementing ⟨.plain "Named", none⟩,
          .nestedIn (.plain "Box"), .extending ⟨.plain "Box", some []⟩, .typeParams 2,
          .implementing ⟨.plain "Shelf", some [.nominal (.plain "Box.Slot")]⟩]⟩
    let miscounted : Declaration :=
      ⟨.plainClass, "Slot",
        [.implementing ⟨.plain "Box", none⟩,
          .extending ⟨.plain "Shelf", some [.nominal (.plain "Slot"), .nominal (.plain "Nil")]⟩]⟩
    let astray : Declaration :=
      ⟨.plainClass, "Slot",
        [.implementing ⟨.plain "Shelf",
            some [.wildcard [.parameterized (some (.nominal (.plain "Box"))) (.plain "Shelf")
              [.nominal (.plain "Slot"), .array (.nominal (.plain "Nil"))]] []]⟩,
          .extending ⟨.plain "Box", none⟩, .implementing ⟨.plain "Box", none⟩]⟩
    Reachable table ∧ table.Legal legal ∧
      (∃ grown, table.declare legal = .ok (.plain "Box.Slot", grown) ∧
        grown.info? (.plain "Box.Slot") = some
          { kind := .plainClass
            superclass := some (.plain "Box")
            interfaces := [.plain "Named", .plain "Shelf"]
            enclosing := some (.plain "Box")
            typeParams := 2
            genericSuperclass := some (.parameterized none (.plain "Box") [])
            genericInterfaces := [.nominal (.plain "Named"),
              .parameterized none (.plain "Shelf") [.nominal (.plain "Box.Slot")]] }) ∧
      (table.declare miscounted = .error (.argumentCount (.plain "Shelf") 1 2) ∧
        ¬ table.Legal miscounted ∧
        FirstUnmet (table.requirements miscounted)
          (some (.argumentCount (.plain "Shelf") 1 2))) ∧
      table.declare astray = .error (.unknown (.plain "Nil")) ∧
        ¬ table.Legal astray ∧
        FirstUnmet (table.requirements astray) (some (.unknown (.plain "Nil"))) := by
  intro table legal miscounted astray
  have reachable : Reachable table := Reachable.initial.attemptAll _
  have accepted : table.Accepts legal.draft := firstFault_eq_none_iff.mp (by decide +kernel)
  have declared : table.declare legal = .ok (.plain "Box.Slot", table.extendedBy legal.draft) :=
    declare_eq_ok_iff.mpr ⟨accepted, by decide +kernel, rfl⟩
  have rejected {declaration : Declaration} {fault : DeclareError}
      (fails : table.firstFault declaration.draft = some fault) :
      table.declare declaration = .error fault ∧ ¬ table.Legal declaration ∧
        FirstUnmet (table.requirements declaration) (some fault) := by
    obtain ⟨succeeds, -, reports⟩ := declare_iff_legal reachable declaration
    have failed := declare_eq_error_iff.mpr fails
    refine ⟨failed, ?_, reports fault failed⟩
    intro isLegal
    obtain ⟨self, grown, declared⟩ := succeeds.mpr isLegal
    rw [failed] at declared
    cases declared
  obtain ⟨succeeds, -, -⟩ := declare_iff_legal reachable legal
  refine ⟨reachable, succeeds.mp ⟨_, _, declared⟩, ⟨_, declared, by decide +kernel⟩, ?_, ?_⟩
  · exact rejected (by decide +kernel)
  · exact rejected (by decide +kernel)

end ClassTable

end GenericTypes
