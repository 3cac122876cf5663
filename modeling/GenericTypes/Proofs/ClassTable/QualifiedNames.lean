import GenericTypes.Proofs.ClassTable.Clauses
import GenericTypes.Proofs.ClassTable.Growth
import GenericTypes.Proofs.Instantiate.WellFormed
import GenericTypes.Proofs.TypeExpr.OwnerPath
import Mathlib.Data.List.DropRight

namespace GenericTypes

namespace TypeName

variable {inner outer : TypeName} {name : String} {x y : List Char}

def nested (outer : TypeName) (name : String) : TypeName :=
  .plain (outer.element ++ "." ++ name)

/-- The name was declared without dots, in a type that is no array. -/
def PlainlyNamedIn (inner outer : TypeName) : Prop :=
  outer.isArray = false ∧ ∃ name : String, '.' ∉ name.toList ∧ inner = outer.nested name

theorem text_of_not_array (plain : inner.isArray = false) : inner.text = inner.element := by
  obtain ⟨element, dims, bound⟩ := inner
  obtain rfl : dims = 0 := by simpa [isArray] using plain
  simp [text]

theorem toList_nested (outer : TypeName) (name : String) :
    (outer.nested name).element.toList = outer.element.toList ++ '.' :: name.toList := by
  simp [nested, plain]

theorem toList_simpleName_nested (outer : TypeName) (name : String) :
    (outer.nested name).simpleName.toList = name.toList.rtakeWhile (· != '.') := by
  rw [simpleName, String.toList_ofList, toList_nested, List.reverse_append, List.reverse_cons,
    List.append_assoc, List.rtakeWhile, List.takeWhile_append]
  split
  case isTrue length =>
    have whole := (List.takeWhile_prefix (· != '.')).eq_of_length length
    simp [whole]
  case isFalse => rfl

theorem simpleName_nested_eq_iff :
    (outer.nested name).simpleName = name ↔ '.' ∉ name.toList := by
  rw [← String.toList_inj, toList_simpleName_nested, List.rtakeWhile_eq_self_iff]
  constructor
  · intro all dotted
    simpa using all '.' dotted
  · rintro plain c member
    simp only [bne_iff_ne]
    rintro rfl
    exact plain member

theorem eq_of_text_append
    (same : outer.text.toList ++ '.' :: x = outer.element.toList ++ '.' :: y) :
    outer.isArray = false ∧ x = y := by
  obtain ⟨element, dims, bound⟩ := outer
  rw [text, String.toList_append, List.append_assoc, List.append_cancel_left_eq] at same
  cases dims with
  | zero => exact ⟨rfl, by simpa using same⟩
  | succ dims => simp [List.replicate_succ] at same

theorem length_simpleName_nested_le (outer : TypeName) (name : String) :
    (outer.nested name).simpleName.toList.length ≤ name.toList.length := by
  rw [toList_simpleName_nested]
  exact (List.rtakeWhile_suffix ..).length_le

theorem eq_of_simpleName_append (short : x.length ≤ y.length)
    (same : (outer.nested name).simpleName.toList ++ x = name.toList ++ y) :
    '.' ∉ name.toList ∧ x = y := by
  have shorter := length_simpleName_nested_le outer name
  have lengths := congrArg List.length same
  simp only [List.length_append] at lengths
  obtain ⟨whole, rest⟩ := List.append_inj same (by omega)
  exact ⟨simpleName_nested_eq_iff.mp (String.toList_inj.mp whole), rest⟩

theorem plainlyNamedIn_nested_iff :
    (outer.nested name).PlainlyNamedIn outer ↔ outer.isArray = false ∧ '.' ∉ name.toList := by
  constructor
  · rintro ⟨plain, written, dotless, same⟩
    have elements := congrArg TypeName.element same
    obtain rfl : name = written := by simpa [nested, TypeName.plain] using elements
    exact ⟨plain, dotless⟩
  · rintro ⟨plain, dotless⟩
    exact ⟨plain, name, dotless, rfl⟩

theorem text_nested_eq_iff :
    (outer.nested name).text = outer.text ++ "." ++ (outer.nested name).simpleName ↔
      (outer.nested name).PlainlyNamedIn outer := by
  rw [plainlyNamedIn_nested_iff, text_of_not_array rfl]
  constructor
  · intro same
    have tails : outer.text.toList ++ '.' :: (outer.nested name).simpleName.toList =
        outer.element.toList ++ '.' :: name.toList := by
      rw [← toList_nested, same]
      simp
    obtain ⟨plain, whole⟩ := eq_of_text_append tails
    exact ⟨plain, simpleName_nested_eq_iff.mp (String.toList_inj.mp whole)⟩
  · rintro ⟨plain, dotless⟩
    rw [text_of_not_array plain, simpleName_nested_eq_iff.mpr dotless]
    rfl

end TypeName

namespace ClassTable

open TypeExpr

variable {table : ClassTable} {inner outer raw : TypeName} {owner : Option (TypeExpr TypeName)}
  {args : List (TypeExpr TypeName)} {t : TypeExpr TypeName}

theorem declared_in {grown : ClassTable} {declaration : Declaration} {self : TypeName}
    (declared : table.declare declaration = .ok (self, grown))
    (written : declaration.outer? = some outer) :
    grown.enclosing? self = some outer ∧ self = outer.nested declaration.name := by
  obtain ⟨-, rfl, rfl⟩ := declare_eq_ok_iff.mp declared
  have sums := Draft.sumsUp declaration
  have enclosing : declaration.draft.enclosing = some outer := sums.enclosing.trans written
  constructor
  · rw [enclosing?, info?_extendedBy, if_pos rfl]
    exact enclosing
  · rw [sums.self_eq, Declaration.self, Declaration.qualifiedName, written]
    rfl

theorem Reachable.exists_nested (reachable : Reachable table)
    (encloses : table.enclosing? inner = some outer) : ∃ name, inner = outer.nested name := by
  obtain ⟨entry, found, written⟩ := Option.bind_eq_some_iff.mp encloses
  cases reachable.origin found with
  | object => cases written
  | enum => cases written
  | @declared before declaration accepted kept =>
    have enclosing : declaration.draft.enclosing = some outer := written
    refine ⟨declaration.draft.name, ?_⟩
    rw [Draft.self, Draft.qualifiedName, enclosing]
    rfl

theorem Reachable.text_eq_iff (reachable : Reachable table)
    (encloses : table.enclosing? inner = some outer) :
    inner.text = outer.text ++ "." ++ inner.simpleName ↔ inner.PlainlyNamedIn outer := by
  obtain ⟨name, rfl⟩ := reachable.exists_nested encloses
  exact TypeName.text_nested_eq_iff

theorem Reachable.bareText_eq (reachable : Reachable table) (wellFormed : table.host.WellFormed t)
    {h : TypeName} (names : t.handle? = some h) (chain : t.path.IsChain TypeName.PlainlyNamedIn) :
    t.bareText = h.text := by
  revert chain
  refine wellFormed.owner_induction
    (P := fun t h => t.path.IsChain TypeName.PlainlyNamedIn → t.bareText = h.text) ?_ ?_ ?_ names
  · intro h _
    exact bareText_nominal h
  · intro raw args _
    rw [bareText_parameterized, barePath_none]
    rfl
  · intro owner outer raw args encloses named bare chain
    obtain ⟨link, links⟩ := (path_isChain_iff named).mp chain
    have spelled := (reachable.text_eq_iff encloses).mpr link
    rw [bareText_parameterized, barePath_some, bare links, spelled, String.append_assoc]
    rfl

theorem Reachable.isChain_of_bareText_append (reachable : Reachable table)
    (wellFormed : table.host.WellFormed t) {h : TypeName} (names : t.handle? = some h)
    {x y : List Char} (short : x.length ≤ y.length)
    (same : t.bareText.toList ++ '.' :: x = h.element.toList ++ '.' :: y) :
    h.isArray = false ∧ t.path.IsChain TypeName.PlainlyNamedIn ∧ x = y := by
  -- What stands behind the path is never longer than what stands behind the qualified name, so it
  -- cannot make up for what a simple name has lost.
  revert x y
  refine wellFormed.owner_induction (P := fun t h => ∀ {x y : List Char}, x.length ≤ y.length →
    t.bareText.toList ++ '.' :: x = h.element.toList ++ '.' :: y →
    h.isArray = false ∧ t.path.IsChain TypeName.PlainlyNamedIn ∧ x = y) ?_ ?_ ?_ names
  · intro h x y _ same
    rw [bareText_nominal] at same
    obtain ⟨plain, tails⟩ := TypeName.eq_of_text_append same
    exact ⟨plain, .singleton h, tails⟩
  · intro raw args x y _ same
    rw [bareText_parameterized, barePath_none] at same
    obtain ⟨plain, tails⟩ := TypeName.eq_of_text_append same
    exact ⟨plain, .singleton raw, tails⟩
  · intro owner outer raw args encloses named ih x y short same
    obtain ⟨name, rfl⟩ := reachable.exists_nested encloses
    have shorter := TypeName.length_simpleName_nested_le outer name
    have longer : owner.bareText.toList ++
          '.' :: ((outer.nested name).simpleName.toList ++ '.' :: x) =
        outer.element.toList ++ '.' :: (name.toList ++ '.' :: y) := by
      rw [bareText_parameterized, barePath_some, TypeName.toList_nested] at same
      simpa [Handle.simpleName] using same
    obtain ⟨plain, chain, tails⟩ := ih (by simp only [List.length_append, List.length_cons]; omega)
      longer
    obtain ⟨dotless, rest⟩ := TypeName.eq_of_simpleName_append (by simpa using short) tails
    have link := TypeName.plainlyNamedIn_nested_iff.mpr ⟨plain, dotless⟩
    exact ⟨rfl, (path_isChain_iff named).mpr ⟨link, chain⟩, List.tail_eq_of_cons_eq rest⟩

theorem Reachable.barePath_eq_text_iff (reachable : Reachable table)
    (wellFormed : table.host.WellFormed (.parameterized owner raw args)) :
    barePath owner raw = raw.text ↔
      (parameterized owner raw args).path.IsChain TypeName.PlainlyNamedIn := by
  constructor
  · intro spelled
    cases owner with
    | none => exact .singleton _
    | some owner =>
      obtain ⟨-, admits, -⟩ := Host.wellFormed_parameterized_iff.mp wellFormed
      obtain ⟨outer, encloses, -⟩ := admits.exists_handle?
      obtain ⟨name, rfl⟩ := reachable.exists_nested encloses
      rw [TypeName.text_of_not_array rfl] at spelled
      refine (reachable.isChain_of_bareText_append wellFormed rfl (Nat.le_refl [].length) ?_).2.1
      rw [bareText_parameterized, spelled]
  · intro chain
    rw [← bareText_parameterized owner raw args]
    exact reachable.bareText_eq wellFormed rfl chain

theorem Reachable.instantiate_text_iff (reachable : Reachable table) (notEmpty : args ≠ [])
    (built : table.host.instantiate raw args = .ok t) :
    t.text = raw.text ++ argumentsText args ↔
      ∀ outer, table.enclosing? raw = some outer → raw.PlainlyNamedIn outer := by
  have built : table.host.instantiateIn none raw args = .ok t := by
    simpa [Host.instantiate, notEmpty] using built
  obtain ⟨-, owner, resolved, rfl⟩ := Host.instantiateIn_eq_ok_iff.mp built
  obtain rfl : (table.enclosing? raw).map .nominal = owner := Except.ok.inj resolved
  rw [text_parameterized, String.append_left_inj]
  cases encloses : table.enclosing? raw with
  | none => simp [pathText, Handle.text]
  | some outer =>
    simp only [Option.some.injEq, forall_eq']
    rw [← reachable.text_eq_iff encloses]
    exact eq_comm

/-- A path spells the qualified name exactly where each of its types was declared by a name without
    dots, in a type that is no array. -/
theorem rendered_path_spells (reachable : Reachable table) :
    (∀ declaration self grown outer, table.declare declaration = .ok (self, grown) →
      declaration.outer? = some outer → grown.enclosing? self = some outer ∧
        (self.PlainlyNamedIn outer ↔ outer.isArray = false ∧ '.' ∉ declaration.name.toList)) ∧
    (∀ inner outer, table.enclosing? inner = some outer →
      (inner.text = outer.text ++ "." ++ inner.simpleName ↔ inner.PlainlyNamedIn outer)) ∧
    (∀ owner raw args, table.host.WellFormed (.parameterized owner raw args) →
      (parameterized owner raw args).text =
          spell (pathSegments owner raw) ++ argumentsText args ∧
        (barePath owner raw ++ argumentsText args = raw.text ++ argumentsText args ↔
          (parameterized owner raw args).path.IsChain TypeName.PlainlyNamedIn)) ∧
    ∀ raw args t, args ≠ [] → table.host.instantiate raw args = .ok t →
      (t.text = raw.text ++ argumentsText args ↔
        ∀ outer, table.enclosing? raw = some outer → raw.PlainlyNamedIn outer) := by
  refine ⟨fun declaration self grown outer declared written => ?_,
    fun _ _ => reachable.text_eq_iff, fun owner raw args wellFormed => ⟨?_, ?_⟩,
    fun _ _ _ => reachable.instantiate_text_iff⟩
  · obtain ⟨encloses, rfl⟩ := declared_in declared written
    exact ⟨encloses, TypeName.plainlyNamedIn_nested_iff⟩
  · rw [spell_pathSegments, text_parameterized]
  · rw [String.append_left_inj]
    exact reachable.barePath_eq_text_iff wellFormed

def nest : ClassTable := initial.attemptAll
  [⟨.plainClass, "Outer", [.typeParams 1]⟩,
    ⟨.plainClass, "Middle", [.nestedIn (.plain "Outer"), .typeParams 1]⟩,
    ⟨.plainClass, "Inner", [.nestedIn (.plain "Outer.Middle"), .typeParams 1]⟩]

theorem rendered_path_spells_nest :
    let args : List (TypeExpr TypeName) := [.unbounded]
    let outer : TypeExpr TypeName := .parameterized none (.plain "Outer") args
    let middle : TypeExpr TypeName := .parameterized (some outer) (.plain "Outer.Middle") args
    let inner : TypeExpr TypeName := .parameterized (some middle) (.plain "Outer.Middle.Inner") args
    Reachable nest ∧ nest.host.WellFormed inner ∧ inner.text = "Outer<?>.Middle<?>.Inner<?>" ∧
      barePath (some middle) (.plain "Outer.Middle.Inner") ++ argumentsText args =
        "Outer.Middle.Inner<?>" ∧
      inner.path.IsChain TypeName.PlainlyNamedIn := by
  intro args outer middle inner
  have reachable : Reachable nest := Reachable.initial.attemptAll _
  have argument : ∀ arg ∈ args, nest.host.Constructible arg := by
    intro arg member
    obtain rfl := List.mem_singleton.mp member
    exact .wildcard (by simp) (by simp)
  have outerBuilt : nest.host.instantiate (.plain "Outer") args = .ok outer := by decide +kernel
  have middleBuilt : nest.host.instantiateIn (some outer) (.plain "Outer.Middle") args =
      .ok middle := by decide +kernel
  have innerBuilt : nest.host.instantiateIn (some middle) (.plain "Outer.Middle.Inner") args =
      .ok inner := by decide +kernel
  have wellFormed : nest.host.WellFormed inner := by
    apply Host.Constructible.wellFormed
    refine .instantiateIn ?_ argument innerBuilt
    rintro _ ⟨⟩
    refine .instantiateIn ?_ argument middleBuilt
    rintro _ ⟨⟩
    exact .instantiate argument outerBuilt
  have bare : barePath (some middle) (.plain "Outer.Middle.Inner") ++ argumentsText args =
      "Outer.Middle.Inner<?>" := by decide +kernel
  obtain ⟨-, -, paths, -⟩ := rendered_path_spells reachable
  refine ⟨reachable, wellFormed, by decide +kernel, bare, ?_⟩
  exact (paths _ _ _ wellFormed).2.mp bare

/-- The simple name is what follows the last dot, so the middle of a name that was declared with a
    dot is written nowhere. -/
theorem dotted_name_loses_middle :
    let table := initial.attemptAll
      [⟨.plainClass, "Outer", []⟩,
        ⟨.plainClass, "Mid.Inner", [.nestedIn (.plain "Outer"), .typeParams 1]⟩]
    let outer : TypeName := .plain "Outer"
    let inner : TypeName := .plain "Outer.Mid.Inner"
    let args : List (TypeExpr TypeName) := [.nominal .object]
    Reachable table ∧ table.enclosing? inner = some outer ∧
      inner.text ≠ outer.text ++ "." ++ inner.simpleName ∧
      ∃ t, table.host.instantiate inner args = .ok t ∧
        t.text = "Outer.Inner<java.lang.Object>" ∧
        inner.text ++ argumentsText args = "Outer.Mid.Inner<java.lang.Object>" := by
  intro table outer inner args
  have reachable : Reachable table := Reachable.initial.attemptAll _
  exact ⟨reachable, by decide +kernel, by decide +kernel, _, rfl, by decide +kernel,
    by decide +kernel⟩

end ClassTable

end GenericTypes
