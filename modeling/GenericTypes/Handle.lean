namespace GenericTypes

/-- A named type is known by its qualified text, by the name it has inside its enclosing type,
    and by the hash code its own runtime gives it. -/
class Handle (H : Type) where
  text : H → String
  simpleName : H → String
  hashCode : H → Int32

end GenericTypes
