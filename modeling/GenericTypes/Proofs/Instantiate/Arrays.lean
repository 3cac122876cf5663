import GenericTypes.ClassTable.Basic
import GenericTypes.Proofs.Instantiate.WellFormed
import Mathlib.Logic.Function.Iterate

namespace GenericTypes

namespace TypeName

theorem text_array {name : TypeName} (room : name.dims < 255) :
    name.array.text = name.text ++ "[]" := by
  have dims : name.array.dims = name.dims + 1 := Nat.min_eq_left room
  have element : name.array.element = name.element := rfl
  rw [text, dims, element, List.replicate_succ', String.join_append, text, String.append_assoc]
  rfl

theorem component_array {name : TypeName} (room : name.dims < 255) :
    name.array.component = some name := by
  obtain ⟨element, dims, bound⟩ := name
  have more : min (dims + 1) 255 = dims + 1 := Nat.min_eq_left room
  simp only [array, more, component]

theorem dims_of_component {name inner : TypeName} (inside : name.component = some inner) :
    name.dims = inner.dims + 1 := by
  obtain ⟨element, dims, bound⟩ := name
  cases dims with
  | zero => cases inside
  | succ dims =>
    cases inside
    rfl

theorem array_iterate (name : TypeName) (n : Nat) :
    array^[n] name = ⟨name.element, min (name.dims + n) 255, Nat.min_le_right ..⟩ := by
  obtain ⟨element, dims, bound⟩ := name
  induction n with
  | zero => simp [Nat.min_eq_left bound]
  | succ n ih =>
    rw [Function.iterate_succ_apply', ih]
    simp only [array, mk.injEq, true_and]
    omega

theorem array_eq_self_iff {name : TypeName} : name.array = name ↔ name.dims = 255 := by
  obtain ⟨element, dims, bound⟩ := name
  simp only [array, mk.injEq, true_and]
  omega

theorem array_eq_array_iff {name other : TypeName} :
    name.array = other.array ↔
      name = other ∨ (name = other.array ∧ name.dims = 255) ∨
        (other = name.array ∧ other.dims = 255) := by
  obtain ⟨element, dims, bound⟩ := name
  obtain ⟨element', dims', bound'⟩ := other
  simp only [array, mk.injEq]
  by_cases same : element = element'
  · simp only [same, true_and]
    omega
  · simp [same, Ne.symm same]

end TypeName

namespace TypeExpr

def component : TypeExpr TypeName → Option (TypeExpr TypeName)
  | nominal h => h.component.map nominal
  | array component => some component
  | parameterized .. | wildcard .. | intersection .. => none

theorem array_ne_self (t : TypeExpr TypeName) : array t ≠ t := by
  intro same
  have sizes := congrArg sizeOf same
  simp at sizes

def componentAt : Nat → TypeExpr TypeName → Option (TypeExpr TypeName)
  | 0, t => some t
  | n + 1, t => t.component.bind (componentAt n)

/-- Only a named type can run out of dimensions. -/
def HasRoom (t : TypeExpr TypeName) (n : Nat) : Prop :=
  ∀ h, t = nominal h → h.dims + n ≤ 255

theorem hasRoom_nominal_iff {h : TypeName} {n : Nat} :
    (nominal h).HasRoom n ↔ h.dims + n ≤ 255 := by
  simp [HasRoom]

theorem hasRoom_of_structural {t : TypeExpr TypeName} (structural : ∀ h, t ≠ nominal h) (n : Nat) :
    t.HasRoom n :=
  fun h same => absurd same (structural h)

theorem dims_of_componentAt {n : Nat} {h inner : TypeName}
    (inside : (nominal h).componentAt n = some (nominal inner)) : h.dims = inner.dims + n := by
  induction n generalizing h with
  | zero =>
    cases inside
    rfl
  | succ n ih =>
    obtain ⟨next, first, rest⟩ := Option.bind_eq_some_iff.mp inside
    obtain ⟨middle, below, rfl⟩ := Option.map_eq_some_iff.mp first
    rw [TypeName.dims_of_component below, ih rest]
    omega

end TypeExpr

namespace ClassTable

open TypeExpr

variable {t : TypeExpr TypeName} {n : Nat}

theorem arrayOf_iterate_nominal (table : ClassTable) (h : TypeName) (n : Nat) :
    table.host.arrayOf^[n] (.nominal h) = .nominal (TypeName.array^[n] h) := by
  induction n with
  | zero => rfl
  | succ n ih =>
    rw [Function.iterate_succ_apply', ih, Function.iterate_succ_apply']
    rfl

theorem arrayOf_iterate_structural (table : ClassTable) (structural : ∀ h, t ≠ .nominal h)
    (n : Nat) (h : TypeName) : table.host.arrayOf^[n] t ≠ .nominal h := by
  induction n generalizing h with
  | zero => exact structural h
  | succ n ih =>
    rw [Function.iterate_succ_apply', Host.arrayOf_eq_array ih]
    simp

theorem hasRoom_succ_iff (table : ClassTable) :
    t.HasRoom (n + 1) ↔ t.HasRoom n ∧ (table.host.arrayOf^[n] t).HasRoom 1 := by
  rcases t.nominal_or_structural with ⟨h, rfl⟩ | structural
  · rw [arrayOf_iterate_nominal, TypeName.array_iterate]
    simp only [hasRoom_nominal_iff]
    omega
  · have wrapped := arrayOf_iterate_structural table structural n
    simp only [hasRoom_of_structural structural, hasRoom_of_structural wrapped, and_self]

theorem component_arrayOf (table : ClassTable) (room : t.HasRoom 1) :
    (table.host.arrayOf t).component = some t := by
  cases t with
  | nominal h =>
    have free : h.dims < 255 := hasRoom_nominal_iff.mp room
    show (TypeName.component h.array).map nominal = some (nominal h)
    rw [TypeName.component_array free, Option.map_some]
  | parameterized | wildcard | array | intersection => rfl

theorem text_arrayOf (table : ClassTable) (room : t.HasRoom 1) :
    (table.host.arrayOf t).text = t.text ++ "[]" := by
  cases t with
  | nominal h => exact TypeName.text_array (hasRoom_nominal_iff.mp room)
  | parameterized | wildcard | array | intersection => rfl

theorem componentAt_arrayOf_iff (table : ClassTable) (t : TypeExpr TypeName) (n : Nat) :
    (table.host.arrayOf^[n] t).componentAt n = some t ↔ t.HasRoom n := by
  constructor
  · rintro inside h rfl
    rw [arrayOf_iterate_nominal] at inside
    rw [← dims_of_componentAt inside]
    exact (TypeName.array^[n] h).dims_le
  · intro room
    induction n with
    | zero => rfl
    | succ n ih =>
      obtain ⟨before, last⟩ := (hasRoom_succ_iff table).mp room
      rw [Function.iterate_succ_apply', componentAt, component_arrayOf table last, Option.bind_some,
        ih before]

theorem text_arrayOf_iff (table : ClassTable) (t : TypeExpr TypeName) (n : Nat) :
    (table.host.arrayOf^[n] t).text = t.text ++ String.join (List.replicate n "[]") ↔
      t.HasRoom n := by
  constructor
  · rintro same h rfl
    rw [arrayOf_iterate_nominal, TypeName.array_iterate] at same
    have lengths := congrArg String.length same
    have bracketPair : "[]".length = 2 := by decide
    simp [TypeExpr.text, Handle.text, TypeName.text, bracketPair] at lengths
    omega
  · intro room
    induction n with
    | zero => simp
    | succ n ih =>
      obtain ⟨before, last⟩ := (hasRoom_succ_iff table).mp room
      rw [Function.iterate_succ_apply', text_arrayOf table last, ih before, List.replicate_succ',
        String.join_append, String.append_assoc]
      rfl

theorem arrayOf_nominal (table : ClassTable) (h : TypeName) :
    table.host.arrayOf (.nominal h) = .nominal h.array := rfl

theorem hasRoom_one_iff {h : TypeName} : ¬ (nominal h).HasRoom 1 ↔ h.dims = 255 := by
  have bound := h.dims_le
  rw [hasRoom_nominal_iff]
  omega

theorem arrayOf_eq_self_iff (table : ClassTable) (t : TypeExpr TypeName) :
    table.host.arrayOf t = t ↔ ¬ t.HasRoom 1 := by
  rcases t.nominal_or_structural with ⟨h, rfl⟩ | structural
  · rw [arrayOf_nominal, nominal.injEq, TypeName.array_eq_self_iff, hasRoom_one_iff]
  · rw [Host.arrayOf_eq_array structural]
    exact iff_of_false t.array_ne_self (not_not_intro (hasRoom_of_structural structural 1))

theorem arrayOf_eq_arrayOf_iff (table : ClassTable) (t u : TypeExpr TypeName) :
    table.host.arrayOf t = table.host.arrayOf u ↔
      t = u ∨ (t = table.host.arrayOf u ∧ ¬ t.HasRoom 1) ∨
        (u = table.host.arrayOf t ∧ ¬ u.HasRoom 1) := by
  rcases t.nominal_or_structural with ⟨h, rfl⟩ | structural <;>
    rcases u.nominal_or_structural with ⟨k, rfl⟩ | structural'
  · simp only [arrayOf_nominal, nominal.injEq, hasRoom_one_iff]
    exact TypeName.array_eq_array_iff
  · simp [arrayOf_nominal, Host.arrayOf_eq_array structural', structural', Ne.symm (structural' _)]
  · simp [arrayOf_nominal, Host.arrayOf_eq_array structural, structural]
  · simp [Host.arrayOf_eq_array structural, Host.arrayOf_eq_array structural',
      hasRoom_of_structural structural, hasRoom_of_structural structural']

/-- An array type is taken apart again by as many components, and written with as many pairs of
    brackets, exactly where the dimensions can be written. A named type never has more. -/
theorem arrays_faithful_iff (table : ClassTable) (t : TypeExpr TypeName) (n : Nat) :
    ((table.host.arrayOf^[n] t).componentAt n = some t ↔ t.HasRoom n) ∧
    ((table.host.arrayOf^[n] t).text = t.text ++ String.join (List.replicate n "[]") ↔
      t.HasRoom n) ∧
    (∀ h, t = .nominal h → table.host.arrayOf^[n] t =
      .nominal ⟨h.element, min (h.dims + n) 255, Nat.min_le_right ..⟩) ∧
    (table.host.arrayOf t = t ↔ ¬ t.HasRoom 1) ∧
    ∀ u, table.host.arrayOf t = table.host.arrayOf u ↔
      t = u ∨ (t = table.host.arrayOf u ∧ ¬ t.HasRoom 1) ∨
        (u = table.host.arrayOf t ∧ ¬ u.HasRoom 1) := by
  refine ⟨componentAt_arrayOf_iff table t n, text_arrayOf_iff table t n, ?_,
    arrayOf_eq_self_iff table t, arrayOf_eq_arrayOf_iff table t⟩
  rintro h rfl
  rw [arrayOf_iterate_nominal, TypeName.array_iterate]

/-- The array of an array with all dimensions is that array itself, and so is the array of its
    component. -/
theorem full_array_is_its_own_array :
    let full : TypeName := ⟨"A", 255, by decide⟩
    let inner : TypeName := ⟨"A", 254, by decide⟩
    let host := initial.host
    host.arrayOf (.nominal full) = .nominal full ∧
      (host.arrayOf (.nominal full)).componentAt 1 = some (.nominal inner) ∧
      (host.arrayOf (.nominal full)).text ≠ full.text ++ "[]" ∧
      host.arrayOf (.nominal inner) = host.arrayOf (.nominal full) ∧
      TypeExpr.nominal inner ≠ .nominal full := by
  decide +kernel

end ClassTable

end GenericTypes
