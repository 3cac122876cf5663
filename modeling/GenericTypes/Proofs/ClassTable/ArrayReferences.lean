import GenericTypes.Proofs.ClassTable.Requirements
import GenericTypes.Proofs.TypeExpr.Replacement

namespace GenericTypes

theorem TypeName.isArray_array (name : TypeName) : name.array.isArray = true :=
  decide_eq_true (Nat.lt_min.mpr ⟨Nat.succ_pos _, by decide⟩)

def Supertype.outline (supertype : Supertype) : Supertype :=
  { supertype with args := supertype.args.map fun args => args.map fun _ => .unbounded }

namespace Clause

def outline : Clause → Clause
  | extending supertype => extending supertype.outline
  | implementing interface => implementing interface.outline
  | nestedIn outer => nestedIn outer
  | typeParams count => typeParams count

inductive LeafReplaced (h k : TypeName) : Clause → Clause → Prop where
  | extending {raw : TypeName} {t u : TypeExpr TypeName} (before after : List (TypeExpr TypeName))
      (inside : t.LeafReplaced h k u) :
      LeafReplaced h k (extending ⟨raw, some (before ++ t :: after)⟩)
        (extending ⟨raw, some (before ++ u :: after)⟩)
  | implementing {raw : TypeName} {t u : TypeExpr TypeName}
      (before after : List (TypeExpr TypeName)) (inside : t.LeafReplaced h k u) :
      LeafReplaced h k (implementing ⟨raw, some (before ++ t :: after)⟩)
        (implementing ⟨raw, some (before ++ u :: after)⟩)

end Clause

namespace Declaration

variable {declaration changed : Declaration} {h k : TypeName}

def outline (declaration : Declaration) : Declaration :=
  { declaration with clauses := declaration.clauses.map Clause.outline }

/-- One leaf in the type arguments of one generic supertype has been exchanged. -/
inductive LeafReplaced (h k : TypeName) : Declaration → Declaration → Prop where
  | clause {kind : ClassKind} {name : String} {clause other : Clause} (before after : List Clause)
      (inside : clause.LeafReplaced h k other) :
      LeafReplaced h k ⟨kind, name, before ++ clause :: after⟩
        ⟨kind, name, before ++ other :: after⟩

theorem LeafReplaced.outline_eq (replaced : declaration.LeafReplaced h k changed) :
    changed.outline = declaration.outline := by
  obtain ⟨before, after, inside⟩ := replaced
  cases inside <;> simp [outline, Clause.outline, Supertype.outline]

theorem LeafReplaced.exists_args (replaced : declaration.LeafReplaced h k changed) :
    ∃ before t u after, t.LeafReplaced h k u ∧ declaration.args = before ++ t :: after ∧
      changed.args = before ++ u :: after := by
  obtain ⟨before, after, inside⟩ := replaced
  cases inside with
  | @extending raw t u front back inside | @implementing raw t u front back inside =>
    refine ⟨before.flatMap Clause.args ++ front, t, u, back ++ after.flatMap Clause.args, inside,
      ?_⟩
    simp [args, Clause.args]

theorem extended_outline :
    declaration.outline.extended = declaration.extended.map Supertype.outline := by
  simp only [extended, outline, List.filterMap_map, List.map_filterMap]
  refine List.filterMap_congr fun clause _ => ?_
  cases clause <;> rfl

theorem listedInterfaces_outline :
    declaration.outline.listedInterfaces = declaration.listedInterfaces.map Supertype.outline := by
  simp only [listedInterfaces, outline, List.filterMap_map, List.map_filterMap]
  refine List.filterMap_congr fun clause _ => ?_
  cases clause with
  | extending supertype =>
    by_cases kind : declaration.kind = .interface <;> simp [kind, Clause.outline]
  | implementing | nestedIn | typeParams => rfl

theorem outer?_outline : declaration.outline.outer? = declaration.outer? := by
  simp only [outer?, outline, List.filterMap_map]
  congr 1
  refine List.filterMap_congr fun clause _ => ?_
  cases clause <;> rfl

theorem self_outline : declaration.outline.self = declaration.self := by
  rw [self, self, qualifiedName, qualifiedName, outer?_outline]
  rfl

theorem singleSuperclass_outline_iff :
    declaration.outline.SingleSuperclass ↔ declaration.SingleSuperclass := by
  have sameKind : declaration.outline.kind = declaration.kind := rfl
  unfold SingleSuperclass
  rw [sameKind, extended_outline]
  cases declaration.kind <;> simp

theorem mem_args_of_extended {supertype : Supertype} {args : List (TypeExpr TypeName)}
    {arg : TypeExpr TypeName} (written : supertype ∈ declaration.extended)
    (instantiated : supertype.args = some args) (member : arg ∈ args) : arg ∈ declaration.args :=
  List.mem_flatMap.mpr ⟨_, extending_mem written, by rwa [Clause.args, instantiated]⟩

theorem mem_args_of_listed {supertype : Supertype} {args : List (TypeExpr TypeName)}
    {arg : TypeExpr TypeName} (written : supertype ∈ declaration.listedInterfaces)
    (instantiated : supertype.args = some args) (member : arg ∈ args) : arg ∈ declaration.args := by
  rcases clause_of_listed written with clause | clause
  · exact List.mem_flatMap.mpr ⟨_, clause, by rwa [Clause.args, instantiated]⟩
  · exact List.mem_flatMap.mpr ⟨_, clause, by rwa [Clause.args, instantiated]⟩

end Declaration

namespace ClassTable

variable {table : ClassTable} {declaration changed : Declaration} {supertype : Supertype}
  {own h : TypeName} {t u : TypeExpr TypeName}

theorem knows_unbounded (table : ClassTable) (own : TypeName) : table.Knows own .unbounded := by
  apply knows_iff_mentions.mpr
  intro name member
  rw [TypeExpr.mem_mentions_iff_children] at member
  simp [TypeExpr.unbounded, TypeExpr.handle?, TypeExpr.children] at member

theorem acceptsSupertype_iff_outline :
    table.AcceptsSupertype own supertype ↔ table.AcceptsSupertype own supertype.outline ∧
      ∀ args, supertype.args = some args → ∀ arg ∈ args, table.Knows own arg := by
  obtain ⟨raw, written⟩ := supertype
  constructor
  · rintro ⟨declared, arity, known⟩
    refine ⟨⟨declared, fun blanks outlined => ?_, fun blanks outlined arg member => ?_⟩, known⟩
    · obtain ⟨args, rfl, rfl⟩ := Option.map_eq_some_iff.mp outlined
      rw [List.length_map]
      exact arity args rfl
    · obtain ⟨args, rfl, rfl⟩ := Option.map_eq_some_iff.mp outlined
      obtain ⟨-, -, rfl⟩ := List.mem_map.mp member
      exact table.knows_unbounded own
  · rintro ⟨⟨declared, arity, -⟩, known⟩
    refine ⟨declared, fun args instantiated => ?_, known⟩
    cases instantiated
    have outlined := arity (args.map fun _ => .unbounded) rfl
    rwa [List.length_map] at outlined

theorem Accepts.knows_args (accepted : table.Accepts declaration.draft) :
    ∀ arg ∈ declaration.args, table.Knows declaration.self arg := by
  have sums := Draft.sumsUp declaration
  intro arg member
  have single := sums.overextended.mp accepted.not_overextended
  obtain ⟨supertype, args, written, instantiated, isArg⟩ :=
    Declaration.exists_supertype_of_mem_args single member
  rw [← sums.self_eq]
  rcases written with superclass | interface
  · exact (accepted.superclass supertype superclass).1.known args instantiated arg isArg
  · exact (accepted.interfaces supertype interface).1.known args instantiated arg isArg

theorem Reachable.legal_iff_outline (reachable : Reachable table) :
    table.Legal declaration ↔ table.Legal declaration.outline ∧
      ∀ arg ∈ declaration.args, table.Knows declaration.self arg := by
  constructor
  · intro legal
    refine ⟨?_, ((reachable.accepts_iff_legal declaration).mpr legal).knows_args⟩
    obtain ⟨fresh, single, outer, superclass, interfaces⟩ := legal
    constructor
    · rwa [Declaration.self_outline]
    · rwa [Declaration.singleSuperclass_outline_iff]
    · rwa [Declaration.outer?_outline]
    · intro kind
      rw [Declaration.extended_outline, Declaration.self_outline, List.forall_mem_map]
      intro supertype written
      obtain ⟨accepted, fits⟩ := superclass kind supertype written
      exact ⟨(acceptsSupertype_iff_outline.mp accepted).1, fits⟩
    · rw [Declaration.listedInterfaces_outline, Declaration.self_outline, List.forall_mem_map]
      intro supertype written
      obtain ⟨accepted, fits⟩ := interfaces supertype written
      exact ⟨(acceptsSupertype_iff_outline.mp accepted).1, fits⟩
  · rintro ⟨⟨fresh, single, outer, superclass, interfaces⟩, known⟩
    rw [Declaration.self_outline] at fresh superclass interfaces
    rw [Declaration.singleSuperclass_outline_iff] at single
    rw [Declaration.outer?_outline] at outer
    rw [Declaration.extended_outline] at superclass
    rw [Declaration.listedInterfaces_outline] at interfaces
    refine ⟨fresh, single, outer, fun kind supertype written => ?_, fun supertype written => ?_⟩
    · obtain ⟨accepted, fits⟩ := superclass kind _ (List.mem_map_of_mem written)
      exact ⟨acceptsSupertype_iff_outline.mpr ⟨accepted, fun args instantiated arg member =>
        known arg (Declaration.mem_args_of_extended written instantiated member)⟩, fits⟩
    · obtain ⟨accepted, fits⟩ := interfaces _ (List.mem_map_of_mem written)
      exact ⟨acceptsSupertype_iff_outline.mpr ⟨accepted, fun args instantiated arg member =>
        known arg (Declaration.mem_args_of_listed written instantiated member)⟩, fits⟩

theorem knows_array_iff (replaced : t.LeafReplaced h h.array u) (plain : own.isArray = false)
    (fresh : table.declares own = false) :
    table.Knows own u ↔ table.Knows own t ∧ h ≠ own := by
  have isArray : h.array ≠ own := by
    rintro rfl
    rw [TypeName.isArray_array] at plain
    cases plain
  have sameElement : table.declares h.array = table.declares h := rfl
  by_cases same : h = own
  · subst same
    refine iff_of_false (fun knows => ?_) (fun both => both.2 rfl)
    rcases knows_iff_mentions.mp knows _ replaced.mem_mentions with isOwn | declared
    · exact isArray isOwn
    · rw [sameElement, fresh] at declared
      cases declared
  · rw [knows_iff_mentions, knows_iff_mentions]
    refine (replaced.forall_mentions_iff ?_).trans (and_iff_left same).symm
    simp [isArray, same, sameElement]

theorem Reachable.legal_array_iff (reachable : Reachable table)
    (replaced : declaration.LeafReplaced h h.array changed) :
    table.Legal changed ↔ table.Legal declaration ∧ h ≠ declaration.self := by
  have outlines := replaced.outline_eq
  have selves : changed.self = declaration.self := by
    rw [← Declaration.self_outline, outlines, Declaration.self_outline]
  obtain ⟨before, t, u, after, inside, args, changedArgs⟩ := replaced.exists_args
  have whole : table.Legal declaration ↔ _ := reachable.legal_iff_outline
  rw [reachable.legal_iff_outline, outlines, selves, changedArgs, whole, args, and_assoc]
  refine and_congr_right fun legal => ?_
  have fresh := legal.fresh
  rw [Declaration.self_outline] at fresh
  have known := knows_array_iff inside rfl fresh
  simp only [List.forall_mem_append, List.forall_mem_cons, known]
  tauto

theorem Reachable.exists_declare_iff_legal (reachable : Reachable table)
    (declaration : Declaration) :
    (∃ self grown, table.declare declaration = .ok (self, grown)) ↔ table.Legal declaration := by
  rw [← reachable.accepts_iff_legal]
  constructor
  · rintro ⟨self, grown, declared⟩
    exact (declare_eq_ok_iff.mp declared).1
  · intro accepted
    exact ⟨_, _, declare_eq_ok_iff.mpr ⟨accepted, rfl, rfl⟩⟩

/-- Whether a declaration is accepted does not depend on whether a leaf of a type argument is a type
    or an array of it, as long as that is not the type under declaration. With an array of itself
    in place of itself no declaration is accepted. -/
theorem declare_array_leaf_iff (reachable : Reachable table)
    (replaced : declaration.LeafReplaced h h.array changed) :
    (∃ self grown, table.declare changed = .ok (self, grown)) ↔
      (∃ self grown, table.declare declaration = .ok (self, grown)) ∧ h ≠ declaration.self := by
  rw [reachable.exists_declare_iff_legal, reachable.exists_declare_iff_legal,
    reachable.legal_array_iff replaced]

def ordered : ClassTable := initial.attemptAll
  [⟨.interface, "Comparable", [.typeParams 1]⟩, ⟨.plainClass, "Digit", []⟩]

theorem declare_array_leaf_iff_digits :
    let comparable (t : TypeExpr TypeName) : TypeExpr TypeName :=
      .parameterized none (.plain "Comparable") [.wildcard [] [t]]
    let version (t : TypeExpr TypeName) : Declaration :=
      ⟨.plainClass, "Version", [.implementing ⟨.plain "Comparable", some [comparable t]⟩]⟩
    let digit : TypeName := .plain "Digit"
    Reachable ordered ∧
      (version (.nominal digit)).LeafReplaced digit digit.array (version (.nominal digit.array)) ∧
      (∃ self grown, ordered.declare (version (.nominal digit)) = .ok (self, grown)) ∧
      ∃ self grown, ordered.declare (version (.nominal digit.array)) = .ok (self, grown) := by
  intro comparable version digit
  have reachable : Reachable ordered := Reachable.initial.attemptAll _
  have replaced :
      (version (.nominal digit)).LeafReplaced digit digit.array (version (.nominal digit.array)) :=
    .clause [] [] (.implementing [] [] (.argument [] [] (.lower [] [] .leaf)))
  have accepted : ordered.Accepts (version (.nominal digit)).draft :=
    firstFault_eq_none_iff.mp (by decide +kernel)
  have declared : ∃ self grown, ordered.declare (version (.nominal digit)) = .ok (self, grown) :=
    ⟨_, _, declare_eq_ok_iff.mpr ⟨accepted, rfl, rfl⟩⟩
  have other : digit ≠ (version (.nominal digit)).self := by decide +kernel
  exact ⟨reachable, replaced, declared,
    (declare_array_leaf_iff reachable replaced).mpr ⟨declared, other⟩⟩

theorem own_array_is_unknown :
    let own : TypeName := .plain "Version"
    let version (h : TypeName) : Declaration :=
      ⟨.plainClass, "Version", [.implementing ⟨.plain "Comparable", some [.nominal h]⟩]⟩
    Reachable ordered ∧ (version own).LeafReplaced own own.array (version own.array) ∧
      (∃ grown, ordered.declare (version own) = .ok (own, grown)) ∧
      ordered.declare (version own.array) = .error (.unknown own.array) := by
  intro own version
  have replaced : (version own).LeafReplaced own own.array (version own.array) :=
    .clause [] [] (.implementing [] [] .leaf)
  have accepted : ordered.Accepts (version own).draft :=
    firstFault_eq_none_iff.mp (by decide +kernel)
  exact ⟨Reachable.initial.attemptAll _, replaced,
    ⟨_, declare_eq_ok_iff.mpr ⟨accepted, by decide +kernel, rfl⟩⟩,
    declare_eq_error_iff.mpr (by decide +kernel)⟩

end ClassTable

end GenericTypes
