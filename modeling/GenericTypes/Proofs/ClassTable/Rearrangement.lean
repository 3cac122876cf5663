import GenericTypes.Proofs.ClassTable.Conservation
import Mathlib.Data.List.Basic

namespace GenericTypes.ClassTable

variable {table later final : ClassTable} {draft : Draft} {own name outer : TypeName}
  {entry : ClassEntry} {declarations : List Declaration} {selves : List TypeName}

/-- Declares one type after the other and returns their handles, up to the first fault. -/
def declareAll (table : ClassTable) :
    List Declaration → Except DeclareError (List TypeName × ClassTable)
  | [] => .ok ([], table)
  | declaration :: rest =>
    match table.declare declaration with
    | .error fault => .error fault
    | .ok (self, grown) =>
      (grown.declareAll rest).map fun (selves, final) => (self :: selves, final)

theorem declareAll_cons_eq_ok_iff {declaration : Declaration} {rest : List Declaration} :
    table.declareAll (declaration :: rest) = .ok (selves, final) ↔
      table.Accepts declaration.draft ∧ ∃ others,
        (table.extendedBy declaration.draft).declareAll rest = .ok (others, final) ∧
          selves = declaration.draft.self :: others := by
  rw [declareAll]
  cases declared : table.declare declaration with
  | error fault =>
    have refused : ¬ table.Accepts declaration.draft := by
      intro accepted
      simp [declare_eq_ok_iff.mpr ⟨accepted, rfl, rfl⟩] at declared
    simp [refused]
  | ok result =>
    obtain ⟨self, grown⟩ := result
    obtain ⟨accepted, rfl, rfl⟩ := declare_eq_ok_iff.mp declared
    dsimp only
    cases (table.extendedBy declaration.draft).declareAll rest with
    | error fault => simp [Except.map]
    | ok result =>
      obtain ⟨others, last⟩ := result
      simp only [Except.map, Except.ok.injEq, Prod.mk.injEq, accepted, true_and]
      constructor
      · rintro ⟨rfl, rfl⟩
        exact ⟨others, ⟨rfl, rfl⟩, rfl⟩
      · rintro ⟨_, ⟨rfl, rfl⟩, rfl⟩
        exact ⟨rfl, rfl⟩

theorem declareAll_selves (ran : table.declareAll declarations = .ok (selves, final)) :
    selves = declarations.map fun declaration => declaration.draft.self := by
  induction declarations generalizing table selves with
  | nil =>
    cases ran
    rfl
  | cons declaration rest ih =>
    obtain ⟨-, others, ranRest, rfl⟩ := declareAll_cons_eq_ok_iff.mp ran
    rw [ih ranRest, List.map_cons]

theorem declareAll_keptIn (ran : table.declareAll declarations = .ok (selves, final)) :
    table.KeptIn final := by
  induction declarations generalizing table selves with
  | nil =>
    cases ran
    exact .refl _
  | cons declaration rest ih =>
    obtain ⟨accepted, others, ranRest, -⟩ := declareAll_cons_eq_ok_iff.mp ran
    exact accepted.keptIn.trans (ih ranRest)

theorem AcceptsSupertype.reflected_eq {supertype : Supertype}
    (accepted : table.AcceptsSupertype own supertype) (plain : supertype.raw.isArray = false)
    (kept : table.KeptIn later) : later.reflected supertype = table.reflected supertype := by
  obtain ⟨entry, found⟩ := exists_info? accepted.declared plain
  have enclosing : later.enclosing? supertype.raw = table.enclosing? supertype.raw := by
    rw [enclosing?, kept _ entry found, enclosing?, found]
  rw [reflected, enclosing, reflected]

theorem Accepts.entryOf_eq (accepted : table.Accepts draft) (kept : table.KeptIn later) :
    later.entryOf draft = table.entryOf draft := by
  have superclass : draft.effectiveSuperclass.map later.reflected =
      draft.effectiveSuperclass.map table.reflected := by
    refine Option.map_congr fun supertype written => ?_
    obtain ⟨fits, -, plain⟩ := accepted.superclass supertype written
    exact fits.reflected_eq plain kept
  have interfaces :
      draft.interfaces.map later.reflected = draft.interfaces.map table.reflected := by
    refine List.map_congr_left fun supertype written => ?_
    obtain ⟨fits, kind⟩ := accepted.interfaces supertype written
    obtain ⟨entry, found, -⟩ := kind?_eq_some_iff.mp kind
    exact fits.reflected_eq (info?_eq_some_iff.mp found).1 kept
  rw [entryOf, superclass, interfaces, entryOf]

/-- The final table has the entries of the first one, and those that it would make itself for the
    declarations between them. -/
theorem declareAll_info?_iff (ran : table.declareAll declarations = .ok (selves, final)) :
    final.info? name = some entry ↔ table.info? name = some entry ∨
      ∃ declaration ∈ declarations,
        name = declaration.draft.self ∧ entry = final.entryOf declaration.draft := by
  induction declarations generalizing table selves with
  | nil =>
    cases ran
    simp
  | cons declaration rest ih =>
    obtain ⟨accepted, others, ranRest, -⟩ := declareAll_cons_eq_ok_iff.mp ran
    have kept := accepted.keptIn.trans (declareAll_keptIn ranRest)
    rw [ih ranRest, accepted.info?_extendedBy_eq_some_iff, ← accepted.entryOf_eq kept]
    simp only [List.exists_mem_cons_iff, or_assoc]
    exact or_left_comm

theorem declareAll_enclosing?_iff (ran : initial.declareAll declarations = .ok (selves, final)) :
    final.enclosing? name = some outer ↔ ∃ declaration ∈ declarations,
      name = declaration.draft.self ∧ declaration.draft.enclosing = some outer := by
  rw [enclosing?, Option.bind_eq_some_iff]
  constructor
  · rintro ⟨entry, found, written⟩
    rcases (declareAll_info?_iff ran).mp found with seeded | ⟨declaration, member, same, rfl⟩
    · rcases info?_initial.mp seeded with ⟨-, rfl⟩ | ⟨-, rfl⟩
      · cases written
      · cases written
    · exact ⟨declaration, member, same, written⟩
  · rintro ⟨declaration, member, same, written⟩
    exact ⟨_, (declareAll_info?_iff ran).mpr (.inr ⟨declaration, member, same, rfl⟩), written⟩

/-- If two arrangements of the same declarations both succeed, every declaration returns the same
    handle in both, and the final tables answer alike about every handle. -/
theorem declareAll_perm {first second : List Declaration} {others : List TypeName}
    {other : ClassTable} (same : first.Perm second)
    (ran : initial.declareAll first = .ok (selves, table))
    (ranOther : initial.declareAll second = .ok (others, other)) :
    (first.zip selves).Perm (second.zip others) ∧ ∀ name, table.AnswersAlike other name := by
  have members : ∀ declaration, declaration ∈ second ↔ declaration ∈ first :=
    fun declaration => same.mem_iff.symm
  -- An entry is what the last table makes of its declaration, so the two tables agree once they
  -- know the same enclosing types.
  have enclosing : other.enclosing? = table.enclosing? := by
    funext name
    apply Option.ext
    intro outer
    simp only [declareAll_enclosing?_iff ran, declareAll_enclosing?_iff ranOther, members]
  have entryOf : other.entryOf = table.entryOf := by
    have reflected : other.reflected = table.reflected := by
      funext supertype
      rw [reflected, enclosing, reflected]
    funext draft
    rw [ClassTable.entryOf, reflected, ClassTable.entryOf]
  constructor
  · rw [declareAll_selves ran, declareAll_selves ranOther, ← List.map_prod_left_eq_zip,
      ← List.map_prod_left_eq_zip]
    exact same.map _
  · intro name
    apply AnswersAlike.of_info?
    apply Option.ext
    intro entry
    simp only [declareAll_info?_iff ran, declareAll_info?_iff ranOther, members, entryOf]

theorem declareAll_perm_nested :
    let outer : Declaration := ⟨.interface, "Shelf", [.typeParams 2]⟩
    let nested : Declaration := ⟨.interface, "Slot", [.nestedIn (.plain "Shelf"), .typeParams 1]⟩
    let argument : Declaration := ⟨.enum, "Label", []⟩
    let user : Declaration :=
      ⟨.plainClass, "Box",
        [.implementing ⟨.plain "Shelf.Slot", some [.nominal (.plain "Label")]⟩]⟩
    let first := [outer, nested, argument, user]
    let second := [argument, outer, nested, user]
    ∃ selves table others other, initial.declareAll first = .ok (selves, table) ∧
      initial.declareAll second = .ok (others, other) ∧
      (first.zip selves).Perm (second.zip others) ∧ ∀ name, table.AnswersAlike other name := by
  intro outer nested argument user first second
  have same : first.Perm second :=
    ((List.Perm.swap argument nested [user]).cons outer).trans (.swap argument outer [nested, user])
  have firstSucceeds : (initial.declareAll first).isOk = true := by decide +kernel
  have secondSucceeds : (initial.declareAll second).isOk = true := by decide +kernel
  cases ran : initial.declareAll first with
  | error fault => simp [ran, Except.isOk, Except.toBool] at firstSucceeds
  | ok result =>
    cases ranOther : initial.declareAll second with
    | error fault => simp [ranOther, Except.isOk, Except.toBool] at secondSucceeds
    | ok resultOther =>
      exact ⟨_, _, _, _, rfl, rfl, declareAll_perm same ran ranOther⟩

end GenericTypes.ClassTable
