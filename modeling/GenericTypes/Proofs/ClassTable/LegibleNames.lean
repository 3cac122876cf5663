import GenericTypes.Proofs.ClassTable.QualifiedNames
import GenericTypes.Proofs.TypeExpr.Reading

namespace GenericTypes

namespace TypeName

variable {name other : TypeName} {dims : Nat}

def brackets (dims : Nat) : List Char :=
  (List.replicate dims ['[', ']']).flatten

theorem brackets_succ (dims : Nat) : brackets (dims + 1) = brackets dims ++ ['[', ']'] := by
  rw [brackets, List.replicate_succ', List.flatten_append, List.flatten_singleton, brackets]

theorem length_brackets (dims : Nat) : (brackets dims).length = dims * 2 := by
  simp [brackets]

theorem brackets_not_delimiters : ∀ c ∈ brackets dims, c ∉ delimiters := by
  intro c member
  obtain ⟨pair, repeated, inside⟩ := List.mem_flatten.mp member
  obtain rfl := (List.mem_replicate.mp repeated).2
  rcases List.mem_pair.mp inside with rfl | rfl <;> decide

theorem toList_text (name : TypeName) :
    name.text.toList = name.element.toList ++ brackets name.dims := by
  simp [text, brackets, List.flatMap]

def reserved : List Char := delimiters ++ ['[', ']']

structure Legible (name : TypeName) : Prop where
  notEmpty : name.element ≠ ""
  unreserved : ∀ c ∈ name.element.toList, c ∉ reserved

-- Only the characters of the name are gone through.
instance : Decidable name.Legible :=
  have := List.decidableBAll (· ∉ reserved) name.element.toList
  decidable_of_iff (name.element ≠ "" ∧ ∀ c ∈ name.element.toList, c ∉ reserved)
    ⟨fun ⟨notEmpty, unreserved⟩ => ⟨notEmpty, unreserved⟩,
      fun legible => ⟨legible.notEmpty, legible.unreserved⟩⟩

namespace Legible

theorem not_delimiters (legible : name.Legible) : ∀ c ∈ name.text.toList, c ∉ delimiters := by
  rw [toList_text]
  intro c member delimits
  rcases List.mem_append.mp member with inElement | inBrackets
  · exact legible.unreserved c inElement (List.mem_append_left _ delimits)
  · exact brackets_not_delimiters c inBrackets delimits

theorem ends (legible : name.Legible) : Ends (· ∉ delimiters) name.text.toList := by
  have notEmpty : name.text.toList ≠ [] := by
    rw [toList_text]
    exact List.append_ne_nil_of_left_ne_nil (mt String.toList_eq_nil_iff.mp legible.notEmpty) _
  exact ⟨_, List.getLast?_eq_some_getLast notEmpty,
    legible.not_delimiters _ (List.getLast_mem notEmpty)⟩

theorem dotted_not_delimiters (legible : name.Legible) :
    ∀ c ∈ '.' :: name.simpleName.toList, c ∉ delimiters := by
  refine List.forall_mem_cons.mpr ⟨by decide, fun c member delimits => ?_⟩
  rw [simpleName, String.toList_ofList, List.mem_reverse] at member
  have inElement := List.mem_reverse.mp ((List.takeWhile_sublist _).subset member)
  exact legible.unreserved c inElement (List.mem_append_left _ delimits)

theorem takeWhile_text (legible : name.Legible) :
    name.text.toList.takeWhile (· != '[') = name.element.toList := by
  rw [toList_text, List.takeWhile_append_of_pos]
  · cases name.dims with
    | zero => simp [brackets]
    | succ dims => simp [brackets, List.replicate_succ]
  · intro c member
    rw [bne_iff_ne]
    rintro rfl
    exact legible.unreserved _ member (by decide)

theorem eq_of_text (legible : name.Legible) (legible' : other.Legible)
    (same : name.text.toList = other.text.toList) : name = other := by
  have elements : name.element = other.element := by
    rw [← String.toList_inj, ← legible.takeWhile_text, ← legible'.takeWhile_text, same]
  have lengths := congrArg List.length same
  obtain ⟨element, dims, bound⟩ := name
  obtain ⟨element', dims', bound'⟩ := other
  simp only at elements
  simp only [toList_text, elements, List.length_append, length_brackets] at lengths
  obtain rfl : dims = dims' := by omega
  simp only [elements]

end Legible

end TypeName

namespace ClassTable

open TypeExpr

variable {table : ClassTable} {t : TypeExpr TypeName} {raw : TypeName}
  {args upper lower : List (TypeExpr TypeName)}

/-- Every declared name is legible, and nested types are declared under names without dots in types
    that are no arrays. -/
structure LegibleNames (table : ClassTable) : Prop where
  declared : ∀ name, table.declares name = true → name.Legible
  nested : ∀ inner outer, table.enclosing? inner = some outer → inner.PlainlyNamedIn outer

theorem Reachable.legibleNames (reachable : Reachable table)
    (checked : ∀ entry ∈ table.entries, (TypeName.plain entry.1).Legible ∧
      ∀ outer ∈ entry.2.enclosing,
        entry.1 = outer.text ++ "." ++ (TypeName.plain entry.1).simpleName) :
    table.LegibleNames := by
  have listed : ∀ {name entry}, table.lookup name = some entry → (name, entry) ∈ table.entries := by
    intro name entry found
    obtain ⟨before, after, split, -⟩ := List.lookup_eq_some_iff.mp found
    rw [split]
    simp
  constructor
  · intro name declared
    obtain ⟨entry, found⟩ := Option.isSome_iff_exists.mp declared
    have legible := (checked _ (listed found)).1
    exact ⟨legible.notEmpty, legible.unreserved⟩
  · intro inner outer encloses
    obtain ⟨entry, found, written⟩ := Option.bind_eq_some_iff.mp encloses
    rw [info?, Option.ite_none_left_eq_some, Bool.not_eq_true] at found
    obtain ⟨plain, found⟩ := found
    refine (reachable.text_eq_iff encloses).mp ?_
    rw [TypeName.text_of_not_array plain]
    exact (checked _ (listed found)).2 outer written

/-- Handles are declared types and their arrays. A wildcard is neither a bound nor a component. -/
def OrdinaryNode (table : ClassTable) : TypeExpr TypeName → Prop
  | .nominal h => table.declares h = true
  | .parameterized _ raw _ => table.declares raw = true
  | .wildcard upper lower => ∀ bound ∈ upper ++ lower, bound.shape ≠ .wildcard
  | .array component => component.shape ≠ .wildcard
  | .intersection _ => False

instance : (node : TypeExpr TypeName) → Decidable (table.OrdinaryNode node)
  | .nominal _ | .parameterized .. => inferInstanceAs (Decidable (_ = true))
  | .wildcard .. => inferInstanceAs (Decidable (∀ bound ∈ _, _))
  | .array _ => inferInstanceAs (Decidable (_ ≠ _))
  | .intersection _ => .isFalse id

structure OrdinaryArgument (table : ClassTable) (t : TypeExpr TypeName) : Prop where
  wellFormed : table.host.WellFormed t
  nodes : t.Throughout table.OrdinaryNode

structure Ordinary (table : ClassTable) (t : TypeExpr TypeName) : Prop extends
    table.OrdinaryArgument t where
  noWildcard : t.shape ≠ .wildcard

instance : Decidable (table.Ordinary t) :=
  decidable_of_iff ((table.host.WellFormed t ∧ ∀ node ∈ t.nodes, table.OrdinaryNode node) ∧
    t.shape ≠ .wildcard)
    ⟨fun ⟨⟨wellFormed, nodes⟩, noWildcard⟩ => ⟨⟨wellFormed, nodes⟩, noWildcard⟩,
      fun ordinary => ⟨⟨ordinary.wellFormed, ordinary.nodes⟩, ordinary.noWildcard⟩⟩

namespace OrdinaryArgument

theorem node (ordinary : table.OrdinaryArgument t) : table.OrdinaryNode t :=
  (throughout_iff.mp ordinary.nodes).1

theorem child {child : TypeExpr TypeName} (ordinary : table.OrdinaryArgument t)
    (member : child ∈ t.children) : table.OrdinaryArgument child :=
  ⟨(Host.wellFormed_iff.mp ordinary.wellFormed).2 child member,
    (throughout_iff.mp ordinary.nodes).2 child member⟩

theorem owner {owner : Option (TypeExpr TypeName)}
    (ordinary : table.OrdinaryArgument (.parameterized owner raw args)) :
    ∀ outer ∈ owner, table.Ordinary outer := by
  rintro outer rfl
  obtain ⟨-, admits, -⟩ := Host.wellFormed_parameterized_iff.mp ordinary.wellFormed
  obtain ⟨h, -, named⟩ := admits.exists_handle?
  refine ⟨ordinary.child List.mem_cons_self, fun wildcard => ?_⟩
  cases outer <;> cases wildcard
  cases named

theorem argument {owner : Option (TypeExpr TypeName)}
    (ordinary : table.OrdinaryArgument (.parameterized owner raw args)) :
    ∀ arg ∈ args, table.OrdinaryArgument arg :=
  fun _ member => ordinary.child (List.mem_append_right _ member)

theorem bound (ordinary : table.OrdinaryArgument (.wildcard upper lower)) :
    ∀ bound ∈ upper ++ lower, table.Ordinary bound :=
  fun bound member => ⟨ordinary.child member, ordinary.node bound member⟩

theorem component {component : TypeExpr TypeName}
    (ordinary : table.OrdinaryArgument (.array component)) : table.Ordinary component :=
  ⟨ordinary.child (List.mem_singleton_self _), ordinary.node⟩

theorem path {owner : Option (TypeExpr TypeName)} (reachable : Reachable table)
    (names : table.LegibleNames)
    (ordinary : table.OrdinaryArgument (.parameterized owner raw args)) :
    (owner = (table.enclosing? raw).map .nominal ∧ pathText owner raw = raw.text) ∨
      ∃ further outer outerArgs, owner = some (.parameterized further outer outerArgs) ∧
        table.Ordinary (.parameterized further outer outerArgs) ∧
        raw = outer.nested raw.simpleName := by
  obtain ⟨-, admits, -⟩ := Host.wellFormed_parameterized_iff.mp ordinary.wellFormed
  cases owner with
  | none =>
    have encloses : table.enclosing? raw = none := admits
    exact .inl ⟨by rw [encloses, Option.map_none], rfl⟩
  | some owner =>
    obtain ⟨outer, encloses, named⟩ := admits.exists_handle?
    have link := names.nested raw outer encloses
    cases owner with
    | wildcard | array | intersection => cases named
    | nominal h =>
      cases named
      have encloses : table.enclosing? raw = some outer := encloses
      refine .inl ⟨by rw [encloses, Option.map_some], ?_⟩
      exact ((reachable.text_eq_iff encloses).mpr link).symm
    | parameterized further outer outerArgs =>
      cases named
      obtain ⟨-, name, dotless, rfl⟩ := link
      refine .inr ⟨further, outer, outerArgs, rfl, ordinary.owner _ rfl, ?_⟩
      rw [TypeName.simpleName_nested_eq_iff.mpr dotless]

end OrdinaryArgument

end ClassTable

end GenericTypes
