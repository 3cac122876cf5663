import GenericTypes.Proofs.ClassTable.Acceptance

namespace GenericTypes

theorem TypeName.eq_plain_iff {name : TypeName} {element : String} :
    name = .plain element ↔ name.element = element ∧ name.isArray = false := by
  obtain ⟨_, dims, _⟩ := name
  simp [plain, isArray]

namespace ClassTable

variable {table grown : ClassTable} {draft : Draft} {name : TypeName} {entry : ClassEntry}

theorem info?_of_lookup (plain : name.isArray = false) :
    table.info? name = table.lookup name.element := by
  simp [info?, plain]

theorem info?_eq_some_iff :
    table.info? name = some entry ↔
      name.isArray = false ∧ table.lookup name.element = some entry := by
  cases plain : name.isArray <;> simp [info?, plain]

theorem declares_of_info? (found : table.info? name = some entry) : table.declares name = true :=
  declares_iff_lookup.mpr ⟨entry, (info?_eq_some_iff.mp found).2⟩

theorem exists_info? (declared : table.declares name = true) (plain : name.isArray = false) :
    ∃ entry, table.info? name = some entry := by
  rw [info?_of_lookup plain]
  exact declares_iff_lookup.mp declared

theorem kind?_eq_some_iff {kind : ClassKind} :
    table.kind? name = some kind ↔ ∃ entry, table.info? name = some entry ∧ entry.kind = kind := by
  simp [kind?]

theorem lookup_initial (element : String) :
    initial.lookup element =
      if element = TypeName.enum.element then some enumEntry
      else if element = TypeName.object.element then some objectEntry else none := by
  have seeded : initial = (insert ⟨[]⟩ TypeName.object.element objectEntry).insert
      TypeName.enum.element enumEntry := rfl
  rw [seeded, lookup_insert, lookup_insert]
  rfl

theorem info?_initial :
    initial.info? name = some entry ↔
      (name = .object ∧ entry = objectEntry) ∨ (name = .enum ∧ entry = enumEntry) := by
  have distinct : TypeName.object.element ≠ TypeName.enum.element := by decide
  have object_iff :
      name = .object ↔ name.element = TypeName.object.element ∧ name.isArray = false :=
    TypeName.eq_plain_iff
  have enum_iff : name = .enum ↔ name.element = TypeName.enum.element ∧ name.isArray = false :=
    TypeName.eq_plain_iff
  rw [info?_eq_some_iff, lookup_initial, object_iff, enum_iff]
  constructor
  · intro stored
    obtain ⟨plain, found⟩ := stored
    split at found
    · exact .inr ⟨⟨by assumption, plain⟩, (Option.some.inj found).symm⟩
    · split at found
      · exact .inl ⟨⟨by assumption, plain⟩, (Option.some.inj found).symm⟩
      · cases found
  · intro seeded
    rcases seeded with ⟨⟨same, plain⟩, rfl⟩ | ⟨⟨same, plain⟩, rfl⟩
    · exact ⟨plain, by rw [same, if_neg distinct, if_pos rfl]⟩
    · exact ⟨plain, by rw [same, if_pos rfl]⟩

theorem info?_extendedBy (table : ClassTable) (draft : Draft) (name : TypeName) :
    (table.extendedBy draft).info? name =
      if name = draft.self then some (table.entryOf draft) else table.info? name := by
  cases array : name.isArray with
  | true =>
    have other : name ≠ draft.self := by
      rintro rfl
      simp [Draft.self, TypeName.plain, TypeName.isArray] at array
    simp [info?, array, other]
  | false =>
    rw [info?_of_lookup array, info?_of_lookup array, extendedBy, lookup_insert]
    simp only [Draft.self, TypeName.eq_plain_iff, array, and_true]

theorem declares_extendedBy (table : ClassTable) (draft : Draft) (name : TypeName) :
    (table.extendedBy draft).declares name = true ↔
      name.element = draft.qualifiedName ∨ table.declares name = true := by
  simp only [declares, extendedBy, lookup_insert]
  by_cases same : name.element = draft.qualifiedName <;> simp [same]

theorem Accepts.ne_self (accepted : table.Accepts draft) (declared : table.declares name = true) :
    name.element ≠ draft.qualifiedName := by
  intro same
  have fresh := accepted.fresh
  simp only [declares, Draft.self, TypeName.plain, ← same] at fresh
  simp [declares, fresh] at declared

theorem Accepts.info?_eq_some (accepted : table.Accepts draft)
    (found : table.info? name = some entry) :
    (table.extendedBy draft).info? name = some entry := by
  have other : name ≠ draft.self := by
    rintro rfl
    exact accepted.ne_self (declares_of_info? found) rfl
  rw [info?_extendedBy, if_neg other, found]

theorem Accepts.info?_extendedBy_eq_some_iff (accepted : table.Accepts draft) :
    (table.extendedBy draft).info? name = some entry ↔
      (name = draft.self ∧ entry = table.entryOf draft) ∨ table.info? name = some entry := by
  constructor
  · intro found
    rw [info?_extendedBy] at found
    split at found
    · exact .inl ⟨by assumption, (Option.some.inj found).symm⟩
    · exact .inr found
  · intro stored
    rcases stored with ⟨rfl, rfl⟩ | found
    · rw [info?_extendedBy, if_pos rfl]
    · exact accepted.info?_eq_some found

def attempt (table : ClassTable) (declaration : Declaration) : ClassTable :=
  match table.declare declaration with
  | .ok (_, grown) => grown
  | .error _ => table

def attemptAll (table : ClassTable) (declarations : List Declaration) : ClassTable :=
  declarations.foldl attempt table

theorem attempt_cases (table : ClassTable) (declaration : Declaration) :
    (table.Accepts declaration.draft ∧
      table.attempt declaration = table.extendedBy declaration.draft) ∨
    table.attempt declaration = table := by
  unfold attempt
  cases declared : table.declare declaration with
  | error fault => exact .inr rfl
  | ok result =>
    obtain ⟨accepted, -, grown⟩ := declare_eq_ok_iff.mp declared
    exact .inl ⟨accepted, grown⟩

theorem Reachable.extendedBy {declaration : Declaration} (reachable : Reachable table)
    (accepted : table.Accepts declaration.draft) :
    Reachable (table.extendedBy declaration.draft) :=
  .declare reachable (declare_eq_ok_iff.mpr ⟨accepted, rfl, rfl⟩)

/-- What holds at first and is kept by every accepted declaration holds of every reachable table. -/
theorem Reachable.invariant {P : ClassTable → Prop} (initially : P .initial)
    (preserved : ∀ {table : ClassTable} {declaration : Declaration}, Reachable table → P table →
      table.Accepts declaration.draft → P (table.extendedBy declaration.draft))
    (reachable : Reachable table) : P table := by
  induction reachable with
  | initial => exact initially
  | declare before declared ih =>
    obtain ⟨accepted, -, rfl⟩ := declare_eq_ok_iff.mp declared
    exact preserved before ih accepted

theorem Reachable.attemptAll (reachable : Reachable table) (declarations : List Declaration) :
    Reachable (table.attemptAll declarations) := by
  induction declarations generalizing table with
  | nil => exact reachable
  | cons declaration rest ih =>
    apply ih
    rcases table.attempt_cases declaration with ⟨accepted, grown⟩ | same
    · rw [grown]
      exact reachable.extendedBy accepted
    · rw [same]
      exact reachable

theorem reachable_iff_attemptAll :
    Reachable table ↔ ∃ declarations, table = initial.attemptAll declarations := by
  constructor
  · intro reachable
    induction reachable with
    | initial => exact ⟨[], rfl⟩
    | @declare before grown declaration self _ declared ih =>
      obtain ⟨declarations, rfl⟩ := ih
      refine ⟨declarations ++ [declaration], ?_⟩
      simp only [attemptAll, List.foldl_append, List.foldl_cons, List.foldl_nil] at declared ⊢
      simp only [attempt, declared]
  · intro attempted
    obtain ⟨declarations, rfl⟩ := attempted
    exact Reachable.initial.attemptAll declarations

theorem info?_attemptAll (declarations : List Declaration)
    (found : table.info? name = some entry) :
    (table.attemptAll declarations).info? name = some entry := by
  induction declarations generalizing table with
  | nil => exact found
  | cons declaration rest ih =>
    apply ih
    rcases table.attempt_cases declaration with ⟨accepted, grown⟩ | same
    · rw [grown]
      exact accepted.info?_eq_some found
    · rw [same]
      exact found

def KeptIn (table later : ClassTable) : Prop :=
  ∀ name entry, table.info? name = some entry → later.info? name = some entry

theorem KeptIn.refl (table : ClassTable) : table.KeptIn table := fun _ _ found => found

theorem KeptIn.trans {middle later : ClassTable} (first : table.KeptIn middle)
    (second : middle.KeptIn later) : table.KeptIn later :=
  fun name entry found => second name entry (first name entry found)

theorem Accepts.keptIn (accepted : table.Accepts draft) : table.KeptIn (table.extendedBy draft) :=
  fun _ _ => accepted.info?_eq_some

/-- Where an entry comes from: it was there from the beginning, or an earlier table made it for a
    declaration that it accepted. -/
inductive Origin (table : ClassTable) : TypeName → ClassEntry → Prop where
  | object : table.Origin .object objectEntry
  | enum : table.Origin .enum enumEntry
  | declared {before : ClassTable} {declaration : Declaration}
      (accepted : before.Accepts declaration.draft) (kept : before.KeptIn table) :
      table.Origin declaration.draft.self (before.entryOf declaration.draft)

theorem Origin.keptIn {later : ClassTable} (origin : table.Origin name entry)
    (kept : table.KeptIn later) : later.Origin name entry := by
  cases origin with
  | object => exact .object
  | enum => exact .enum
  | declared accepted before => exact .declared accepted (before.trans kept)

theorem Reachable.origin (reachable : Reachable table) (found : table.info? name = some entry) :
    table.Origin name entry := by
  refine Reachable.invariant (P := fun table => ∀ name entry, table.info? name = some entry →
    table.Origin name entry) ?_ ?_ reachable name entry found
  · intro name entry found
    rcases info?_initial.mp found with ⟨rfl, rfl⟩ | ⟨rfl, rfl⟩
    · exact .object
    · exact .enum
  · intro table declaration _ ih accepted name entry found
    rcases accepted.info?_extendedBy_eq_some_iff.mp found with ⟨rfl, rfl⟩ | found
    · exact .declared accepted accepted.keptIn
    · exact (ih name entry found).keptIn accepted.keptIn

end ClassTable

end GenericTypes
