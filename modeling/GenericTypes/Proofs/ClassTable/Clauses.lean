import GenericTypes.ClassTable.Declaration
import Mathlib.Data.List.Induction

namespace GenericTypes

def Clause.args : Clause → List (TypeExpr TypeName)
  | .extending supertype | .implementing supertype => supertype.args.getD []
  | .nestedIn _ | .typeParams _ => []

namespace Declaration

def args (declaration : Declaration) : List (TypeExpr TypeName) :=
  declaration.clauses.flatMap Clause.args

def extended (declaration : Declaration) : List Supertype :=
  declaration.clauses.filterMap fun
    | .extending supertype => some supertype
    | _ => none

/-- What a type implements, in the order of the clauses. An interface implements what it extends. -/
def listedInterfaces (declaration : Declaration) : List Supertype :=
  declaration.clauses.filterMap fun
    | .implementing interface => some interface
    | .extending supertype => if declaration.kind = .interface then some supertype else none
    | _ => none

def outer? (declaration : Declaration) : Option TypeName :=
  let outers := declaration.clauses.filterMap fun
    | .nestedIn outer => some outer
    | _ => none
  outers.getLast?

def paramCount (declaration : Declaration) : Nat :=
  let counts := declaration.clauses.filterMap fun
    | .typeParams count => some count
    | _ => none
  counts.getLastD 0

def qualifiedName (declaration : Declaration) : String :=
  match declaration.outer? with
  | some outer => outer.element ++ "." ++ declaration.name
  | none => declaration.name

def self (declaration : Declaration) : TypeName := .plain declaration.qualifiedName

/-- A class takes one superclass, an enum none beside its implicit one. -/
def SingleSuperclass (declaration : Declaration) : Prop :=
  match declaration.kind with
  | .plainClass => declaration.extended.length ≤ 1
  | .enum => declaration.extended = []
  | .interface => True

def superclass? (declaration : Declaration) : Option Supertype :=
  match declaration.kind with
  | .interface => none
  | .plainClass => some (declaration.extended.head?.getD ⟨.object, none⟩)
  | .enum => some ⟨.enum, some [.nominal declaration.self]⟩

end Declaration

namespace Draft

/-- The draft has of every part what the clauses say of it. -/
structure SumsUp (draft : Draft) (declaration : Declaration) : Prop where
  kind : draft.kind = declaration.kind
  name : draft.name = declaration.name
  superclass : draft.superclass =
    if declaration.kind = .plainClass then declaration.extended.head? else none
  overextended : draft.overextended = false ↔ declaration.SingleSuperclass
  interfaces : draft.interfaces = declaration.listedInterfaces
  enclosing : draft.enclosing = declaration.outer?
  typeParams : draft.typeParams = declaration.paramCount

variable {draft : Draft} {declaration : Declaration} {kind : ClassKind} {name : String}
  {clauses : List Clause}

theorem SumsUp.start (kind : ClassKind) (name : String) :
    (start kind name).SumsUp ⟨kind, name, []⟩ := by
  refine ⟨rfl, rfl, ?_, ?_, rfl, rfl, rfl⟩
  · cases kind <;> rfl
  · cases kind <;> simp [Draft.start, Declaration.SingleSuperclass, Declaration.extended]

theorem SumsUp.extending (sums : draft.SumsUp ⟨kind, name, clauses⟩) (supertype : Supertype) :
    (draft.extending supertype).SumsUp ⟨kind, name, clauses ++ [.extending supertype]⟩ := by
  have extended : Declaration.extended ⟨kind, name, clauses ++ [.extending supertype]⟩ =
      Declaration.extended ⟨kind, name, clauses⟩ ++ [supertype] := by
    simp [Declaration.extended]
  have outer : draft.enclosing =
      Declaration.outer? ⟨kind, name, clauses ++ [.extending supertype]⟩ := by
    simpa [Declaration.outer?] using sums.enclosing
  have count : draft.typeParams =
      Declaration.paramCount ⟨kind, name, clauses ++ [.extending supertype]⟩ := by
    simpa [Declaration.paramCount] using sums.typeParams
  have sameKind : draft.kind = kind := sums.kind
  have superclass := sums.superclass
  have listed := sums.interfaces
  cases kind with
  | interface =>
    have grown : draft.extending supertype =
        { draft with interfaces := draft.interfaces ++ [supertype] } := by
      simp [Draft.extending, sameKind]
    rw [grown]
    refine ⟨sameKind, sums.name, superclass, sums.overextended, ?_, outer, count⟩
    simpa [Declaration.listedInterfaces] using listed
  | enum =>
    have grown : draft.extending supertype = { draft with overextended := true } := by
      simp [Draft.extending, sameKind]
    rw [grown]
    refine ⟨sameKind, sums.name, superclass, ?_, ?_, outer, count⟩
    · simp [Declaration.SingleSuperclass, extended]
    · simpa [Declaration.listedInterfaces] using listed
  | plainClass =>
    have listed : draft.interfaces =
        Declaration.listedInterfaces ⟨.plainClass, name, clauses ++ [.extending supertype]⟩ := by
      simpa [Declaration.listedInterfaces] using listed
    -- The first class named stays the superclass, and every further one is too many.
    cases earlier : Declaration.extended ⟨.plainClass, name, clauses⟩ with
    | nil =>
      have free : draft.superclass = none := by simpa [earlier] using superclass
      have single : draft.overextended = false :=
        sums.overextended.mpr (by simp [Declaration.SingleSuperclass, earlier])
      have grown : draft.extending supertype = { draft with superclass := some supertype } := by
        simp [Draft.extending, sameKind, free]
      rw [grown]
      refine ⟨sameKind, sums.name, ?_, ?_, listed, outer, count⟩
      · simp [extended, earlier]
      · simp [Declaration.SingleSuperclass, extended, earlier, single]
    | cons first rest =>
      have taken : draft.superclass = some first := by simpa [earlier] using superclass
      have grown : draft.extending supertype = { draft with overextended := true } := by
        simp [Draft.extending, sameKind, taken]
      rw [grown]
      refine ⟨sameKind, sums.name, ?_, ?_, listed, outer, count⟩
      · simp [extended, earlier, taken]
      · simp [Declaration.SingleSuperclass, extended, earlier]

theorem SumsUp.add (sums : draft.SumsUp ⟨kind, name, clauses⟩) (clause : Clause) :
    (draft.add clause).SumsUp ⟨kind, name, clauses ++ [clause]⟩ := by
  cases clause with
  | extending supertype => exact sums.extending supertype
  | implementing interface | nestedIn outer | typeParams count =>
    obtain ⟨rfl, rfl, superclass, overextended, interfaces, enclosing, typeParams⟩ := sums
    constructor <;>
      simp_all [Draft.add, Declaration.extended, Declaration.SingleSuperclass,
        Declaration.listedInterfaces, Declaration.outer?, Declaration.paramCount]

theorem sumsUp (declaration : Declaration) : declaration.draft.SumsUp declaration := by
  obtain ⟨kind, name, clauses⟩ := declaration
  induction clauses using List.reverseRecOn with
  | nil => exact .start kind name
  | append_singleton clauses clause ih =>
    have last : Declaration.draft ⟨kind, name, clauses ++ [clause]⟩ =
        (Declaration.draft ⟨kind, name, clauses⟩).add clause := by
      simp [Declaration.draft]
    rw [last]
    exact ih.add clause

theorem SumsUp.qualifiedName_eq (sums : draft.SumsUp declaration) :
    draft.qualifiedName = declaration.qualifiedName := by
  cases outer : declaration.outer? <;>
    simp [Draft.qualifiedName, Declaration.qualifiedName, sums.enclosing, sums.name, outer]

theorem SumsUp.self_eq (sums : draft.SumsUp declaration) : draft.self = declaration.self := by
  rw [Draft.self, sums.qualifiedName_eq, Declaration.self]

theorem SumsUp.effectiveSuperclass_eq (sums : draft.SumsUp declaration) :
    draft.effectiveSuperclass = declaration.superclass? := by
  rw [effectiveSuperclass, sums.kind, sums.superclass, sums.self_eq, Declaration.superclass?]
  cases declaration.kind with
  | interface => rfl
  | enum => rfl
  | plainClass => cases declaration.extended <;> rfl

end Draft

namespace Declaration

variable {declaration : Declaration} {supertype : Supertype}

theorem extending_mem (written : supertype ∈ declaration.extended) :
    .extending supertype ∈ declaration.clauses := by
  obtain ⟨clause, member, same⟩ := List.mem_filterMap.mp written
  cases clause with
  | extending other =>
    obtain rfl := Option.some.inj same
    exact member
  | implementing | nestedIn | typeParams => cases same

theorem clause_of_listed (written : supertype ∈ declaration.listedInterfaces) :
    .extending supertype ∈ declaration.clauses ∨ .implementing supertype ∈ declaration.clauses := by
  obtain ⟨clause, member, same⟩ := List.mem_filterMap.mp written
  cases clause with
  | extending other =>
    dsimp only at same
    split at same
    · obtain rfl := Option.some.inj same
      exact .inl member
    · cases same
  | implementing other =>
    obtain rfl := Option.some.inj same
    exact .inr member
  | nestedIn | typeParams => cases same

theorem mem_args {args : List (TypeExpr TypeName)} {arg : TypeExpr TypeName}
    (written : declaration.draft.effectiveSuperclass = some supertype ∨
      supertype ∈ declaration.draft.interfaces)
    (instantiated : supertype.args = some args) (member : arg ∈ args) :
    arg ∈ declaration.args ∨ arg = .nominal declaration.self := by
  have sums := Draft.sumsUp declaration
  rw [sums.effectiveSuperclass_eq, sums.interfaces] at written
  have listed : arg ∈ supertype.args.getD [] := by rwa [instantiated]
  rcases written with superclass | interface
  · unfold superclass? at superclass
    split at superclass
    · cases superclass
    · cases extended : declaration.extended with
      | nil =>
        rw [extended] at superclass
        cases superclass
        cases instantiated
      | cons first rest =>
        obtain rfl : first = supertype := by simpa [extended] using superclass
        have clause : .extending first ∈ declaration.clauses :=
          extending_mem (by rw [extended]; exact List.mem_cons_self)
        exact .inl (List.mem_flatMap.mpr ⟨_, clause, listed⟩)
    · cases superclass
      cases instantiated
      exact .inr (List.mem_singleton.mp member)
  · rcases clause_of_listed interface with clause | clause
    · exact .inl (List.mem_flatMap.mpr ⟨_, clause, listed⟩)
    · exact .inl (List.mem_flatMap.mpr ⟨_, clause, listed⟩)

theorem exists_supertype_of_mem_args {arg : TypeExpr TypeName}
    (single : declaration.SingleSuperclass) (member : arg ∈ declaration.args) :
    ∃ supertype args, (declaration.draft.effectiveSuperclass = some supertype ∨
      supertype ∈ declaration.draft.interfaces) ∧ supertype.args = some args ∧ arg ∈ args := by
  have sums := Draft.sumsUp declaration
  rw [sums.effectiveSuperclass_eq, sums.interfaces]
  obtain ⟨clause, written, isArg⟩ := List.mem_flatMap.mp member
  have instantiated : ∀ supertype : Supertype, arg ∈ supertype.args.getD [] →
      ∃ args, supertype.args = some args ∧ arg ∈ args := by
    intro supertype isArg
    cases written : supertype.args with
    | none => simp [written] at isArg
    | some args => exact ⟨args, rfl, by simpa [written] using isArg⟩
  cases clause with
  | nestedIn | typeParams => cases isArg
  | implementing interface =>
    obtain ⟨args, isSome, inside⟩ := instantiated interface isArg
    have listed : interface ∈ declaration.listedInterfaces :=
      List.mem_filterMap.mpr ⟨_, written, rfl⟩
    exact ⟨interface, args, .inr listed, isSome, inside⟩
  | extending supertype =>
    obtain ⟨args, isSome, inside⟩ := instantiated supertype isArg
    refine ⟨supertype, args, ?_, isSome, inside⟩
    have extended : supertype ∈ declaration.extended := List.mem_filterMap.mpr ⟨_, written, rfl⟩
    unfold SingleSuperclass at single
    cases kind : declaration.kind with
    | interface => exact .inr (List.mem_filterMap.mpr ⟨_, written, by simp [kind]⟩)
    | enum =>
      simp only [kind] at single
      rw [single] at extended
      cases extended
    | plainClass =>
      simp only [kind] at single
      have written := List.length_pos_of_mem extended
      obtain ⟨only, alone⟩ := List.length_eq_one_iff.mp (Nat.le_antisymm single written)
      obtain rfl : supertype = only := by simpa [alone] using extended
      exact .inl (by simp [superclass?, kind, alone])

end Declaration

end GenericTypes
