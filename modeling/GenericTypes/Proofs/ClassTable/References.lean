import GenericTypes.Proofs.ClassTable.NativeSupertypes
import GenericTypes.Proofs.ClassTable.Order
import GenericTypes.Proofs.TypeExpr.Preorder

namespace GenericTypes.ClassTable

variable {table : ClassTable} {draft : Draft} {own name : TypeName} {entry : ClassEntry}
  {t : TypeExpr TypeName}

theorem Reachable.declares_enclosing {outer : TypeName} (reachable : Reachable table)
    (encloses : table.enclosing? name = some outer) : table.declares outer = true := by
  obtain ⟨entry, found, written⟩ := Option.bind_eq_some_iff.mp encloses
  exact ((reachable.stratified found).enclosing outer written).declared

theorem AcceptsSupertype.knows_reflected {supertype : Supertype} (reachable : Reachable table)
    (accepted : table.AcceptsSupertype own supertype) :
    table.Knows own (table.reflected supertype) := by
  obtain ⟨raw, args⟩ := supertype
  apply knows_iff_mentions.mpr
  intro mentioned member
  cases args with
  | none =>
    obtain rfl := TypeExpr.mem_mentions_nominal.mp member
    exact .inr accepted.declared
  | some args =>
    rcases TypeExpr.mem_mentions_parameterized.mp member with
      rfl | ⟨owner, written, inside⟩ | ⟨arg, isArg, inside⟩
    · exact .inr accepted.declared
    · -- No check looks at the owner that is filled in: it is declared since the raw type is in it.
      obtain ⟨outer, encloses, rfl⟩ := Option.map_eq_some_iff.mp written
      obtain rfl := TypeExpr.mem_mentions_nominal.mp inside
      exact .inr (reachable.declares_enclosing encloses)
    · exact knows_iff_mentions.mp (accepted.known args rfl arg isArg) mentioned inside

def MentionsDeclared (table : ClassTable) (t : TypeExpr TypeName) : Prop :=
  ∀ mentioned ∈ t.mentions, table.declares mentioned = true

theorem mentionsDeclared_nominal_iff :
    table.MentionsDeclared (.nominal name) ↔ table.declares name = true := by
  simp [MentionsDeclared, TypeExpr.mem_mentions_nominal]

theorem Knows.mentionsDeclared (known : table.Knows draft.self t) :
    (table.extendedBy draft).MentionsDeclared t := by
  intro mentioned member
  apply (declares_extendedBy table draft mentioned).mpr
  rcases knows_iff_mentions.mp known mentioned member with rfl | declared
  · exact .inl rfl
  · exact .inr declared

theorem MentionsDeclared.extendedBy (declared : table.MentionsDeclared t) (draft : Draft) :
    (table.extendedBy draft).MentionsDeclared t :=
  fun mentioned member => (declares_extendedBy table draft mentioned).mpr
    (.inr (declared mentioned member))

theorem Reachable.entry_mentionsDeclared (reachable : Reachable table)
    (found : table.info? name = some entry) (reported : entry.Reports t) :
    table.MentionsDeclared t := by
  refine Reachable.invariant (P := fun table => ∀ name entry, table.info? name = some entry →
    ∀ t, entry.Reports t → table.MentionsDeclared t) ?_ ?_ reachable name entry found t reported
  · intro name entry found t reported
    rcases info?_initial.mp found with ⟨-, rfl⟩ | ⟨-, rfl⟩
    · simp [ClassEntry.Reports, objectEntry] at reported
    · obtain rfl : TypeExpr.nominal .object = t := by
        simpa [ClassEntry.Reports, enumEntry] using reported
      exact mentionsDeclared_nominal_iff.mpr (by decide)
  · intro table declaration before ih accepted name entry found t reported
    rcases accepted.info?_extendedBy_eq_some_iff.mp found with ⟨-, rfl⟩ | stored
    · obtain ⟨supertype, -, fits, -, rfl⟩ := accepted.exists_reflected reported
      exact (fits.knows_reflected before).mentionsDeclared
    · exact (ih name entry stored t reported).extendedBy declaration.draft

theorem Reachable.mentionsDeclared (reachable : Reachable table)
    (reported : table.Reports name t) : table.MentionsDeclared t := by
  rcases reports_iff.mp reported with ⟨-, rfl⟩ | ⟨entry, found, stored⟩
  · exact mentionsDeclared_nominal_iff.mpr (declares_of_info? reachable.info?_object)
  · exact reachable.entry_mentionsDeclared found stored

/-- Every handle that a reported supertype mentions is declared, and it mentions every handle that a
    node of it names, at any depth and in owners too. -/
theorem reported_mentions_declared (reachable : Reachable table)
    (reported : table.Reports name t) :
    (∀ mentioned ∈ t.mentions, table.declares mentioned = true) ∧
      ∀ node ∈ t.nodes, ∀ named, node.handle? = some named → named ∈ t.mentions :=
  ⟨reachable.mentionsDeclared reported,
    fun node member _ named =>
      TypeExpr.mem_mentions_iff.mpr ⟨node, member, TypeExpr.handle?_eq_some_iff.mp named⟩⟩

theorem reported_mentions_declared_iterator :
    let table := initial.attemptAll
      [⟨.interface, "List", [.typeParams 1]⟩,
        ⟨.interface, "Iterator", [.nestedIn (.plain "List"), .typeParams 2]⟩,
        ⟨.plainClass, "Range",
          [.implementing ⟨.plain "List.Iterator",
            some [.wildcard [.parameterized none (.plain "List") [.nominal (.plain "Range")]] [],
              .nominal TypeName.enum.array]⟩]⟩]
    let reported : TypeExpr TypeName :=
      .parameterized (some (.nominal (.plain "List"))) (.plain "List.Iterator")
        [.wildcard [.parameterized none (.plain "List") [.nominal (.plain "Range")]] [],
          .nominal TypeName.enum.array]
    Reachable table ∧ table.Reports (.plain "Range") reported ∧
      reported.mentions =
        [.plain "List.Iterator", .plain "List", .plain "Range", TypeName.enum.array] ∧
      ∀ mentioned ∈ reported.mentions, table.declares mentioned = true := by
  intro table reported
  have reachable : Reachable table := Reachable.initial.attemptAll _
  have found : table.Reports (.plain "Range") reported := by decide +kernel
  exact ⟨reachable, found, by decide +kernel, (reported_mentions_declared reachable found).1⟩

end GenericTypes.ClassTable
