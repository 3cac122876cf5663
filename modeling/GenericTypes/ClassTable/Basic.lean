import GenericTypes.Host
import GenericTypes.TypeName
import GenericTypes.TypeExpr.Basic

namespace GenericTypes

inductive ClassKind where
  | plainClass
  | interface
  | enum
deriving DecidableEq, Repr

/-- What a declaration leaves behind. The generic supertypes are those that reflection reports:
    instantiations where the declaration wrote type arguments, nominal types elsewhere. -/
structure ClassEntry where
  kind : ClassKind
  superclass : Option TypeName
  interfaces : List TypeName
  enclosing : Option TypeName
  typeParams : Nat
  genericSuperclass : Option (TypeExpr TypeName)
  genericInterfaces : List (TypeExpr TypeName)
deriving DecidableEq

def TypeName.object : TypeName := .plain "java.lang.Object"

def TypeName.enum : TypeName := .plain "java.lang.Enum"

/-- Declared types by element name, the latest declaration first. -/
structure ClassTable where
  entries : List (String × ClassEntry)

namespace ClassTable

def objectEntry : ClassEntry where
  kind := .plainClass
  superclass := none
  interfaces := []
  enclosing := none
  typeParams := 0
  genericSuperclass := none
  genericInterfaces := []

def enumEntry : ClassEntry where
  kind := .plainClass
  superclass := some .object
  interfaces := []
  enclosing := none
  typeParams := 1
  genericSuperclass := some (.nominal .object)
  genericInterfaces := []

def initial : ClassTable :=
  ⟨[(TypeName.enum.element, enumEntry), (TypeName.object.element, objectEntry)]⟩

def lookup (table : ClassTable) (name : String) : Option ClassEntry :=
  table.entries.lookup name

def insert (table : ClassTable) (name : String) (entry : ClassEntry) : ClassTable :=
  ⟨(name, entry) :: table.entries⟩

theorem lookup_insert (table : ClassTable) (name other : String) (entry : ClassEntry) :
    (table.insert name entry).lookup other =
      if other = name then some entry else table.lookup other := by
  by_cases same : other = name
  · simp [insert, lookup, same]
  · simp [insert, lookup, List.lookup_cons, same, beq_eq_false_iff_ne.mpr same]

def get? (table : ClassTable) (name : String) : Option TypeName :=
  (table.lookup name).map fun _ => .plain name

/-- Whether the element type is declared, whatever the dimensions. -/
def declares (table : ClassTable) (name : TypeName) : Bool :=
  (table.lookup name.element).isSome

/-- Array types have no entry of their own. -/
def info? (table : ClassTable) (name : TypeName) : Option ClassEntry :=
  if name.isArray then none else table.lookup name.element

def kind? (table : ClassTable) (name : TypeName) : Option ClassKind :=
  (table.info? name).map ClassEntry.kind

def superclass? (table : ClassTable) (name : TypeName) : Option TypeName :=
  if name.isArray then some .object else (table.info? name).bind ClassEntry.superclass

def interfaces (table : ClassTable) (name : TypeName) : List TypeName :=
  ((table.info? name).map ClassEntry.interfaces).getD []

def enclosing? (table : ClassTable) (name : TypeName) : Option TypeName :=
  (table.info? name).bind ClassEntry.enclosing

def typeParams (table : ClassTable) (name : TypeName) : Nat :=
  ((table.info? name).map ClassEntry.typeParams).getD 0

def genericSuperclass? (table : ClassTable) (name : TypeName) : Option (TypeExpr TypeName) :=
  if name.isArray then some (.nominal .object)
  else (table.info? name).bind ClassEntry.genericSuperclass

def genericInterfaces (table : ClassTable) (name : TypeName) : List (TypeExpr TypeName) :=
  ((table.info? name).map ClassEntry.genericInterfaces).getD []

def host (table : ClassTable) : Host TypeName where
  isInterface name := table.kind? name == some .interface
  superclass := table.superclass?
  interfaces := table.interfaces
  enclosing := table.enclosing?
  arity := table.typeParams
  arrayHandle := TypeName.array

/-- Steps that suffice for every walk: no chain is longer than the table, an array and the root
    included. -/
def walkBound (table : ClassTable) : Nat := table.entries.length + 2

end ClassTable

end GenericTypes
