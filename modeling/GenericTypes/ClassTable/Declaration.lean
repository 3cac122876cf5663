import GenericTypes.ClassTable.Basic

namespace GenericTypes

/-- A supertype as written: a bare type, or an instantiation, whose argument list may be empty. -/
structure Supertype where
  raw : TypeName
  args : Option (List (TypeExpr TypeName)) := none
deriving DecidableEq

inductive Clause where
  | extending (supertype : Supertype)
  | implementing (interface : Supertype)
  | nestedIn (outer : TypeName)
  | typeParams (count : Nat)

structure Draft where
  kind : ClassKind
  name : String
  superclass : Option Supertype
  /-- Whether a superclass was named that the type cannot take. -/
  overextended : Bool
  interfaces : List Supertype
  enclosing : Option TypeName
  typeParams : Nat

namespace Draft

def start (kind : ClassKind) (name : String) : Draft where
  kind := kind
  name := name
  superclass := none
  overextended := false
  interfaces := []
  enclosing := none
  typeParams := 0

/-- An interface extends any number of interfaces, a class one class, and an enum nothing beside
    its implicit superclass. -/
def extending (draft : Draft) (supertype : Supertype) : Draft :=
  match draft.kind, draft.superclass with
  | .interface, _ => { draft with interfaces := draft.interfaces ++ [supertype] }
  | .plainClass, none => { draft with superclass := some supertype }
  | .plainClass, some _ | .enum, _ => { draft with overextended := true }

def add (draft : Draft) : Clause → Draft
  | .extending supertype => draft.extending supertype
  | .implementing interface => { draft with interfaces := draft.interfaces ++ [interface] }
  | .nestedIn outer => { draft with enclosing := some outer }
  | .typeParams count => { draft with typeParams := count }

/-- A nested type is named after the element type of its enclosing type. -/
def qualifiedName (draft : Draft) : String :=
  match draft.enclosing with
  | some outer => outer.element ++ "." ++ draft.name
  | none => draft.name

def self (draft : Draft) : TypeName := .plain draft.qualifiedName

def effectiveSuperclass (draft : Draft) : Option Supertype :=
  match draft.kind, draft.superclass with
  | .interface, _ => none
  | _, some supertype => some supertype
  | .plainClass, none => some ⟨.object, none⟩
  | .enum, none => some ⟨.enum, some [.nominal draft.self]⟩

end Draft

structure Declaration where
  kind : ClassKind
  name : String
  clauses : List Clause

def Declaration.draft (declaration : Declaration) : Draft :=
  declaration.clauses.foldl Draft.add (.start declaration.kind declaration.name)

end GenericTypes
