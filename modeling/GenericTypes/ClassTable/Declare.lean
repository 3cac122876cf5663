import GenericTypes.ClassTable.Declaration
import GenericTypes.TypeExpr.Preorder

namespace GenericTypes

inductive DeclareError where
  | duplicate (type : TypeName)
  | unknown (type : TypeName)
  | notAClass (type : TypeName)
  | notAnInterface (type : TypeName)
  | multipleSuperclasses (type : TypeName)
  | argumentCount (raw : TypeName) (expected actual : Nat)
deriving DecidableEq

def DeclareError.message : DeclareError → String
  | duplicate type => "type " ++ type.text ++ " is already declared"
  | unknown type => "type " ++ type.text ++ " is not declared"
  | notAClass type => type.text ++ " is not a class and cannot be extended"
  | notAnInterface type => type.text ++ " is not an interface and cannot be implemented"
  | multipleSuperclasses type => type.text ++ " declares more than one superclass"
  | argumentCount raw expected actual =>
    "type parameter count mismatch of " ++ raw.text ++ ": " ++ toString actual ++
      " vs " ++ toString expected

namespace ClassTable

def unknownFault (table : ClassTable) (name : TypeName) : Option DeclareError :=
  if table.declares name then none else some (.unknown name)

/-- Type arguments may name declared types and the type under declaration. -/
def argumentFault (table : ClassTable) (self : TypeName) (arg : TypeExpr TypeName) :
    Option DeclareError :=
  arg.mentions.findSome? fun name => if name = self then none else table.unknownFault name

/-- An instantiation has to fit the declared parameter count before its arguments are looked at. -/
def supertypeFault (table : ClassTable) (self : TypeName) (supertype : Supertype) :
    Option DeclareError :=
  table.unknownFault supertype.raw <|>
    supertype.args.bind fun args =>
      let expected := table.typeParams supertype.raw
      if args.length ≠ expected then some (.argumentCount supertype.raw expected args.length)
      else args.findSome? (table.argumentFault self)

def superclassFault (table : ClassTable) (self : TypeName) (superclass : Supertype) :
    Option DeclareError :=
  table.supertypeFault self superclass <|>
    if table.kind? superclass.raw = some .interface || superclass.raw.isArray then
      some (.notAClass superclass.raw)
    else none

def interfaceFault (table : ClassTable) (self : TypeName) (interface : Supertype) :
    Option DeclareError :=
  table.supertypeFault self interface <|>
    if table.kind? interface.raw = some .interface then none
    else some (.notAnInterface interface.raw)

/-- The first fault of a draft: its name, the number of superclasses, the enclosing type, the
    superclass, and the interfaces in order. -/
def firstFault (table : ClassTable) (draft : Draft) : Option DeclareError :=
  (if table.declares draft.self then some (.duplicate draft.self) else none) <|>
  (if draft.overextended then some (.multipleSuperclasses draft.self) else none) <|>
  draft.enclosing.bind table.unknownFault <|>
  draft.effectiveSuperclass.bind (table.superclassFault draft.self) <|>
  draft.interfaces.findSome? (table.interfaceFault draft.self)

/-- A supertype as reflection reports it: the owner of an instantiation is the enclosing type. -/
def reflected (table : ClassTable) (supertype : Supertype) : TypeExpr TypeName :=
  match supertype.args with
  | some args =>
    .parameterized ((table.enclosing? supertype.raw).map .nominal) supertype.raw args
  | none => .nominal supertype.raw

def entryOf (table : ClassTable) (draft : Draft) : ClassEntry where
  kind := draft.kind
  superclass := draft.effectiveSuperclass.map Supertype.raw
  interfaces := draft.interfaces.map Supertype.raw
  enclosing := draft.enclosing
  typeParams := draft.typeParams
  genericSuperclass := draft.effectiveSuperclass.map table.reflected
  genericInterfaces := draft.interfaces.map table.reflected

def register (table : ClassTable) (draft : Draft) : Except DeclareError (TypeName × ClassTable) :=
  match table.firstFault draft with
  | some fault => .error fault
  | none =>
    .ok (draft.self, table.insert draft.qualifiedName (table.entryOf draft))

def declare (table : ClassTable) (declaration : Declaration) :
    Except DeclareError (TypeName × ClassTable) :=
  table.register declaration.draft

/-- The tables that declarations can build. -/
inductive Reachable : ClassTable → Prop where
  | initial : Reachable .initial
  | declare {table grown : ClassTable} {declaration : Declaration} {self : TypeName} :
      Reachable table → table.declare declaration = .ok (self, grown) → Reachable grown

end ClassTable

end GenericTypes
