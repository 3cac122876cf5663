import GenericTypes.Proofs.ClassTable.NativeSupertypes

namespace GenericTypes.ClassTable

variable {table later : ClassTable} {name raw : TypeName} {entry : ClassEntry}
  {owner : Option (TypeExpr TypeName)} {args : List (TypeExpr TypeName)}

/-- Every reported supertype is the handle recorded in its place, or an instantiation of it. -/
structure ViewsAgree (entry : ClassEntry) : Prop where
  superclass : entry.genericSuperclass.map TypeExpr.handle? = entry.superclass.map some
  interfaces : entry.genericInterfaces.map TypeExpr.handle? = entry.interfaces.map some

theorem handle?_reflected (table : ClassTable) (supertype : Supertype) :
    (table.reflected supertype).handle? = some supertype.raw := by
  obtain ⟨raw, args⟩ := supertype
  cases args with
  | none => rfl
  | some args => rfl

theorem viewsAgree_entryOf (table : ClassTable) (draft : Draft) :
    ViewsAgree (table.entryOf draft) := by
  have named : TypeExpr.handle? ∘ table.reflected = some ∘ Supertype.raw :=
    funext table.handle?_reflected
  constructor
  · simp only [entryOf, Option.map_map, named]
  · simp only [entryOf, List.map_map, named]

theorem Origin.viewsAgree (origin : table.Origin name entry) : ViewsAgree entry := by
  cases origin with
  | object => exact ⟨rfl, rfl⟩
  | enum => exact ⟨rfl, rfl⟩
  | declared => exact viewsAgree_entryOf _ _

theorem Reachable.genericSuperclass?_handle (reachable : Reachable table) (name : TypeName) :
    (table.genericSuperclass? name).map TypeExpr.handle? = (table.superclass? name).map some := by
  cases array : name.isArray with
  | true => simp [genericSuperclass?, superclass?, array, TypeExpr.handle?]
  | false =>
    cases found : table.info? name with
    | none => simp [genericSuperclass?, superclass?, array, found]
    | some entry =>
      have agree := (reachable.origin found).viewsAgree
      simpa [genericSuperclass?, superclass?, array, found] using agree.superclass

theorem Reachable.genericInterfaces_handles (reachable : Reachable table) (name : TypeName) :
    (table.genericInterfaces name).map TypeExpr.handle? = (table.interfaces name).map some := by
  cases found : table.info? name with
  | none => simp [genericInterfaces, interfaces, found]
  | some entry =>
    have agree := (reachable.origin found).viewsAgree
    simpa [genericInterfaces, interfaces, found] using agree.interfaces

theorem KeptIn.reports (kept : table.KeptIn later)
    (reported : table.Reports name (.parameterized owner raw args)) :
    later.Reports name (.parameterized owner raw args) := by
  obtain ⟨entry, found, reported⟩ := reports_parameterized_iff.mp reported
  exact reports_parameterized_iff.mpr ⟨entry, kept name entry found, reported⟩

/-- Whatever is asked about, declared or not, the two views have the same supertypes in the same
    order. A reported instantiation stays reported, and with the default owner it can be built again
    in the table and in every later one. -/
theorem reported_views_agree (reachable : Reachable table) (name : TypeName) :
    (table.genericSuperclass? name).map TypeExpr.handle? = (table.superclass? name).map some ∧
    (table.genericInterfaces name).map TypeExpr.handle? = (table.interfaces name).map some ∧
    ∀ owner raw args, table.Reports name (.parameterized owner raw args) →
      ∀ declarations : List Declaration,
        let later := table.attemptAll declarations
        later.Reports name (.parameterized owner raw args) ∧
          later.host.instantiateIn none raw args = .ok (.parameterized owner raw args) := by
  refine ⟨reachable.genericSuperclass?_handle name, reachable.genericInterfaces_handles name, ?_⟩
  intro owner raw args reported declarations later
  have kept : table.KeptIn later := fun _ _ => info?_attemptAll declarations
  have instantiates := (reachable.instantiates reported).mono (kept raw)
  exact ⟨kept.reports reported, instantiates.instantiateIn⟩

def shelf : ClassTable :=
  initial.attemptAll
    [⟨.interface, "Shelf", [.typeParams 1]⟩,
      ⟨.interface, "Slot", [.nestedIn (.plain "Shelf")]⟩,
      ⟨.enum, "Size",
        [.implementing ⟨.plain "Shelf", some [.unbounded]⟩,
          .implementing ⟨.plain "Shelf.Slot", some []⟩]⟩]

theorem reported_views_agree_shelf :
    Reachable shelf ∧
      shelf.genericSuperclass? (.plain "Size") =
        some (.parameterized none .enum [.nominal (.plain "Size")]) ∧
      shelf.superclass? (.plain "Size") = some .enum ∧
      (shelf.genericInterfaces (.plain "Size")).map TypeExpr.handle? =
        (shelf.interfaces (.plain "Size")).map some ∧
      ∀ declarations : List Declaration,
        (shelf.attemptAll declarations).host.instantiateIn none (.plain "Shelf.Slot") [] =
          .ok (.parameterized (some (.nominal (.plain "Shelf"))) (.plain "Shelf.Slot") []) := by
  have reachable : Reachable shelf := Reachable.initial.attemptAll _
  have reported : shelf.Reports (.plain "Size")
      (.parameterized (some (.nominal (.plain "Shelf"))) (.plain "Shelf.Slot") []) := by
    decide +kernel
  obtain ⟨-, interfaces, rebuilt⟩ := reported_views_agree reachable (.plain "Size")
  refine ⟨reachable, by decide +kernel, by decide +kernel, interfaces, fun declarations => ?_⟩
  exact (rebuilt _ _ _ reported declarations).2

end GenericTypes.ClassTable
