import GenericTypes.Proofs.ClassTable.Clauses
import GenericTypes.Proofs.ClassTable.References
import GenericTypes.Proofs.ClassTable.Views
import GenericTypes.Proofs.Instantiate.WellFormed

namespace GenericTypes

namespace ClassTable

variable {table later : ClassTable} {declaration : Declaration} {draft : Draft} {name : TypeName}
  {t child : TypeExpr TypeName}

theorem KeptIn.info?_eq (kept : table.KeptIn later) (declared : table.declares name = true) :
    later.info? name = table.info? name := by
  cases array : name.isArray with
  | true => simp [info?, array]
  | false =>
    obtain ⟨entry, found⟩ := exists_info? declared array
    rw [found, kept name entry found]

theorem KeptIn.declares (kept : table.KeptIn later) (declared : table.declares name = true) :
    later.declares name = true := by
  have element : table.declares (.plain name.element) = true := declared
  obtain ⟨entry, found⟩ := exists_info? element rfl
  have keeps : later.declares (.plain name.element) = true :=
    declares_of_info? (kept _ entry found)
  exact keeps

theorem admitsNode_congr {owner : Option (TypeExpr TypeName)} {raw : TypeName}
    {args : List (TypeExpr TypeName)} (same : later.info? raw = table.info? raw) :
    later.host.AdmitsNode (.parameterized owner raw args) ↔
      table.host.AdmitsNode (.parameterized owner raw args) := by
  apply Host.admitsNode_congr
  · show later.typeParams raw = table.typeParams raw
    rw [typeParams, same, typeParams]
  · show later.enclosing? raw = table.enclosing? raw
    rw [enclosing?, same, enclosing?]

theorem KeptIn.admitsNode (kept : table.KeptIn later) (admits : table.host.AdmitsNode t) :
    later.host.AdmitsNode t ∨ ∃ raw, t = .parameterized none raw [] := by
  cases t with
  | nominal | wildcard | intersection => exact .inl True.intro
  | array component =>
    cases component with
    | nominal h => exact admits.elim
    | parameterized | wildcard | array | intersection => exact .inl True.intro
  | parameterized owner raw args =>
    cases found : table.info? raw with
    | some entry =>
      have same : later.info? raw = table.info? raw := by rw [found, kept raw entry found]
      exact .inl ((admitsNode_congr same).mpr admits)
    | none =>
      obtain ⟨arity, admitsOwner⟩ := admits
      have none_needed : table.host.enclosing raw = none := by simp [host, enclosing?, found]
      obtain rfl : args = [] := by simpa [host, typeParams, found] using arity
      rcases owner with - | owner
      · exact .inr ⟨raw, rfl⟩
      · cases owner <;> simp [Host.AdmitsOwner, none_needed] at admitsOwner

theorem KeptIn.wellFormed_iff (kept : table.KeptIn later) (declared : table.MentionsDeclared t) :
    later.host.WellFormed t ↔ table.host.WellFormed t := by
  refine forall₂_congr fun node member => ?_
  cases node with
  | nominal | wildcard | intersection => exact Iff.rfl
  | array component => cases component <;> exact Iff.rfl
  | parameterized owner raw args =>
    have mentioned : raw ∈ t.mentions := by
      apply TypeExpr.mem_mentions_iff.mpr
      exact ⟨_, member, .inr ⟨owner, args, rfl⟩⟩
    exact admitsNode_congr (kept.info?_eq (declared raw mentioned))

theorem Reachable.handle?_reported (reachable : Reachable table)
    (reported : table.Reports name t) : ∃ named, t.handle? = some named := by
  rcases reported with superclass | interface
  · have agree := reachable.genericSuperclass?_handle name
    rw [superclass, Option.map_some, eq_comm, Option.map_eq_some_iff] at agree
    obtain ⟨named, -, same⟩ := agree
    exact ⟨named, same.symm⟩
  · have member := List.mem_map_of_mem (f := TypeExpr.handle?) interface
    rw [reachable.genericInterfaces_handles, List.mem_map] at member
    obtain ⟨named, -, same⟩ := member
    exact ⟨named, same.symm⟩

theorem Reachable.admits_reported (reachable : Reachable table) (reported : table.Reports name t) :
    table.host.AdmitsNode t := by
  obtain ⟨named, handle⟩ := reachable.handle?_reported reported
  cases t with
  | wildcard | array | intersection => cases handle
  | nominal h => exact True.intro
  | parameterized owner raw args =>
    obtain ⟨entry, found, arity, rfl⟩ := reachable.instantiates reported
    have encloses : entry.enclosing = table.host.enclosing raw := by
      simp [host, enclosing?, found]
    refine ⟨by simp [host, typeParams, found, arity], ?_⟩
    rw [encloses]
    exact table.host.admitsOwner_default raw

theorem reports_plain_iff (plain : name.isArray = false) :
    table.Reports name t ↔ ∃ entry, table.info? name = some entry ∧ entry.Reports t := by
  simp [reports_iff, plain]

theorem Reports.initial (reported : initial.Reports name t) : t = .nominal .object := by
  rcases reports_iff.mp reported with ⟨-, rfl⟩ | ⟨entry, found, stored⟩
  · rfl
  · rcases info?_initial.mp found with ⟨-, rfl⟩ | ⟨-, rfl⟩
    · simp [ClassEntry.Reports, objectEntry] at stored
    · simpa [ClassEntry.Reports, enumEntry, eq_comm] using stored

theorem Accepts.reports_extendedBy (accepted : table.Accepts draft)
    (reported : (table.extendedBy draft).Reports name t) :
    table.Reports name t ∨ (table.entryOf draft).Reports t := by
  rcases reports_iff.mp reported with array | ⟨entry, found, stored⟩
  · exact .inl (reports_iff.mpr (.inl array))
  · rcases accepted.info?_extendedBy_eq_some_iff.mp found with ⟨-, rfl⟩ | earlier
    · exact .inr stored
    · exact .inl (reports_iff.mpr (.inr ⟨entry, earlier, stored⟩))

theorem Accepts.part_of_reported (accepted : table.Accepts declaration.draft)
    (reported : (table.entryOf declaration.draft).Reports t) (member : child ∈ t.children) :
    (∃ h, child = .nominal h) ∨ child ∈ declaration.args := by
  obtain ⟨⟨raw, args⟩, written, -, -, rfl⟩ := accepted.exists_reflected reported
  cases args with
  | none => cases member
  | some args =>
    rcases List.mem_append.mp member with isOwner | isArg
    · obtain ⟨outer, -, rfl⟩ := Option.map_eq_some_iff.mp (Option.mem_toList.mp isOwner)
      exact .inl ⟨outer, rfl⟩
    · rcases Declaration.mem_args written rfl isArg with member | rfl
      · exact .inr member
      · exact .inl ⟨_, rfl⟩

theorem Accepts.exists_reported_part (accepted : table.Accepts declaration.draft)
    (member : child ∈ declaration.args) :
    ∃ t, (table.entryOf declaration.draft).Reports t ∧ child ∈ t.children := by
  have single := (Draft.sumsUp declaration).overextended.mp accepted.not_overextended
  obtain ⟨⟨raw, _⟩, args, written, rfl, isArg⟩ :=
    Declaration.exists_supertype_of_mem_args single member
  refine ⟨table.reflected ⟨raw, some args⟩, ?_, List.mem_append_right _ isArg⟩
  rcases written with superclass | interface
  · exact .inl (by simp [entryOf, superclass])
  · exact .inr (List.mem_map_of_mem interface)

/-- Whatever is declared later, a type reports well-formed supertypes exactly if its declaration was
    given well-formed arguments. -/
theorem Reachable.wellFormed_reports_iff (reachable : Reachable table)
    (accepted : table.Accepts declaration.draft)
    (kept : (table.extendedBy declaration.draft).KeptIn later) :
    (∀ t, later.Reports declaration.draft.self t → later.host.WellFormed t) ↔
      ∀ arg ∈ declaration.args, (table.extendedBy declaration.draft).host.WellFormed arg := by
  set grown := table.extendedBy declaration.draft
  have before : Reachable grown := reachable.extendedBy accepted
  have found : grown.info? declaration.draft.self = some (table.entryOf declaration.draft) :=
    accepted.info?_extendedBy_eq_some_iff.mpr (.inl ⟨rfl, rfl⟩)
  have isPlain : declaration.draft.self.isArray = false := rfl
  have reports : ∀ t, later.Reports declaration.draft.self t ↔
      (table.entryOf declaration.draft).Reports t := by
    intro t
    simp [reports_plain_iff isPlain, kept _ _ found]
  have same : ∀ t, (table.entryOf declaration.draft).Reports t →
      (later.host.WellFormed t ↔ grown.host.WellFormed t) := by
    intro t stored
    exact kept.wellFormed_iff (before.entry_mentionsDeclared found stored)
  constructor
  · intro wellFormed arg member
    obtain ⟨t, stored, part⟩ := accepted.exists_reported_part member
    have whole := (same t stored).mp (wellFormed t ((reports t).mpr stored))
    exact (Host.wellFormed_iff.mp whole).2 arg part
  · intro arguments t reported
    have stored := (reports t).mp reported
    -- The outermost node was checked when it was accepted, so only its parts are in question.
    refine (same t stored).mpr (Host.wellFormed_iff.mpr ⟨?_, fun child part => ?_⟩)
    · exact before.admits_reported (reports_iff.mpr (.inr ⟨_, found, stored⟩))
    · rcases accepted.part_of_reported stored part with ⟨h, rfl⟩ | isArg
      · exact Host.wellFormed_nominal h
      · exact arguments child isArg

end ClassTable

end GenericTypes
