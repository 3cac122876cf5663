import GenericTypes.Handle
import GenericTypes.Text.CodeUnits

namespace GenericTypes

/-- At most 255 dimensions can be written. -/
structure TypeName where
  element : String
  dims : Nat := 0
  dims_le : dims ≤ 255 := by decide
deriving DecidableEq

namespace TypeName

def plain (element : String) : TypeName := ⟨element, 0, by decide⟩

instance : Hashable TypeName where
  hash name := mixHash (hash name.element) (hash name.dims)

def isArray (name : TypeName) : Bool := 0 < name.dims

/-- Past the last dimension that can be written the array type is the type itself. -/
def array (name : TypeName) : TypeName :=
  ⟨name.element, min (name.dims + 1) 255, Nat.min_le_right ..⟩

def component (name : TypeName) : Option TypeName :=
  match name with
  | ⟨_, 0, _⟩ => none
  | ⟨element, dims + 1, bound⟩ => some ⟨element, dims, Nat.le_of_succ_le bound⟩

def text (name : TypeName) : String :=
  name.element ++ String.join (List.replicate name.dims "[]")

/-- The part of the element name after its last dot. -/
def simpleName (name : TypeName) : String :=
  .ofList (name.element.toList.reverse.takeWhile (· != '.')).reverse

def hashBrackets (hash : Int32) : Nat → Int32
  | 0 => hash
  | dims + 1 => hashBrackets (CodeUnits.hashFrom hash (CodeUnits.ofString "[]")) dims

def hashCode (name : TypeName) : Int32 :=
  hashBrackets (CodeUnits.hashFrom 0 (CodeUnits.ofString name.element)) name.dims

instance : Handle TypeName where
  text := text
  simpleName := simpleName
  hashCode := hashCode

end TypeName

end GenericTypes
