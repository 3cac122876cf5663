import GenericTypes.Instantiate
import GenericTypes.Proofs.ClassTable.Subtyping
import GenericTypes.Proofs.Hierarchy.Agreement
import GenericTypes.Proofs.Hierarchy.Stopping

namespace GenericTypes

namespace Host

theorem instantiateIn_congr {H : Type} [DecidableEq H] {host other : Host H} {raw : H}
    (arity : other.arity raw = host.arity raw)
    (enclosing : other.enclosing raw = host.enclosing raw)
    (owner : Option (TypeExpr H)) (args : List (TypeExpr H)) :
    other.instantiateIn owner raw args = host.instantiateIn owner raw args := by
  have resolved : other.resolveOwner raw owner = host.resolveOwner raw owner := by
    rcases owner with - | owner
    · simp only [resolveOwner, enclosing]
    · cases owner with
      | parameterized outerOwner outer outerArgs => simp only [resolveOwner, enclosing]
      | nominal | wildcard | array | intersection => rfl
  rw [instantiateIn, arity, resolved, instantiateIn]

end Host

namespace ClassTable

variable {table other grown : ClassTable} {draft : Draft} {name sub sup start : TypeName}
  {bound more : Nat}

structure AnswersAlike (table other : ClassTable) (name : TypeName) : Prop where
  kind : other.kind? name = table.kind? name
  isInterface : other.host.isInterface name = table.host.isInterface name
  isRoot : other.host.isRoot name = table.host.isRoot name
  superclass : other.host.superclass name = table.host.superclass name
  interfaces : other.host.interfaces name = table.host.interfaces name
  enclosing : other.host.enclosing name = table.host.enclosing name
  arity : other.host.arity name = table.host.arity name
  genericSuperclass : other.genericSuperclass? name = table.genericSuperclass? name
  genericInterfaces : other.genericInterfaces name = table.genericInterfaces name

theorem AnswersAlike.of_info? (same : other.info? name = table.info? name) :
    table.AnswersAlike other name := by
  have kind : other.kind? name = table.kind? name := by rw [kind?, same, kind?]
  have isInterface : other.host.isInterface name = table.host.isInterface name := by
    simp only [host, kind]
  have superclass : other.superclass? name = table.superclass? name := by
    rw [superclass?, same, superclass?]
  refine ⟨kind, isInterface, ?_, superclass, ?_, ?_, ?_, ?_, ?_⟩
  · simp only [host, kind, superclass]
  · simp only [host, ClassTable.interfaces, same]
  · simp only [host, enclosing?, same]
  · simp only [host, typeParams, same]
  · rw [genericSuperclass?, same, genericSuperclass?]
  · rw [ClassTable.genericInterfaces, same, ClassTable.genericInterfaces]

theorem info?_extendedBy_of_ne (other : name ≠ draft.self) :
    (table.extendedBy draft).info? name = table.info? name := by
  rw [info?_extendedBy, if_neg other]

theorem get?_extendedBy_of_ne {element : String} (other : element ≠ draft.qualifiedName) :
    (table.extendedBy draft).get? element = table.get? element := by
  rw [get?, extendedBy, lookup_insert, if_neg other, get?]

theorem Accepts.ne_self_of_declares (accepted : table.Accepts draft)
    (declared : table.declares name = true) : name ≠ draft.self := by
  rintro rfl
  exact accepted.ne_self declared rfl

/-- No handle but the new type itself leads to the new type. -/
theorem Reachable.agreeOn_extendedBy (reachable : Reachable table)
    (accepted : table.Accepts draft) :
    Host.AgreeOn {name | name ≠ draft.self} table.host (table.extendedBy draft).host := by
  have alike : ∀ name ≠ draft.self, table.AnswersAlike (table.extendedBy draft) name :=
    fun name apart => .of_info? (info?_extendedBy_of_ne apart)
  refine ⟨fun name apart => (alike name apart).isInterface,
    fun name apart => (alike name apart).isRoot, fun name apart => (alike name apart).superclass,
    fun name apart => (alike name apart).interfaces, fun name _ upper extended => ?_,
    fun name _ upper implemented => ?_⟩
  · exact accepted.ne_self_of_declares (reachable.declares_supertype (.superclass extended))
  · exact accepted.ne_self_of_declares (reachable.declares_supertype (.interface implemented))

theorem Reachable.lineage_terminates (reachable : Reachable table) (start : TypeName)
    (includeSelf : Bool) (lineage : Lineage) :
    (table.host.lineage table.walkBound start includeSelf lineage).Terminates := by
  obtain ⟨classes, chain, short⟩ := reachable.exists_chain start
  exact Host.lineage_terminates chain short reachable.declaredTypes_closed
    (fun _ => reachable.interfaces_declared) table.card_declaredTypes_lt includeSelf lineage

theorem Reachable.lineage_eq (reachable : Reachable table) (enough : table.walkBound ≤ bound)
    (enoughMore : table.walkBound ≤ more) (start : TypeName) (includeSelf : Bool)
    (lineage : Lineage) :
    table.host.lineage more start includeSelf lineage =
      table.host.lineage bound start includeSelf lineage := by
  have terminates := reachable.lineage_terminates start includeSelf lineage
  rw [Host.lineage_eq_of_terminates terminates enough,
    Host.lineage_eq_of_terminates terminates enoughMore]

theorem Reachable.isSubtype_eq (reachable : Reachable table) (enough : table.walkBound ≤ bound)
    (enoughMore : table.walkBound ≤ more) (sub sup : TypeName) :
    table.host.isSubtype more sub sup = table.host.isSubtype bound sub sup := by
  obtain ⟨classes, chain, short⟩ := reachable.exists_chain sub
  obtain ⟨found, decided⟩ : ∃ found : Prop, ∀ bound, table.walkBound ≤ bound →
      (table.host.isSubtype bound sub sup = true ↔ found) :=
    ⟨_, fun bound enough => chain.isSubtype_iff (short.trans_le enough)
      reachable.declaredTypes_closed (fun _ _ _ => reachable.interfaces_declared)
      (table.card_declaredTypes_lt.trans_le enough)⟩
  rw [Bool.eq_iff_iff, decided more enoughMore, decided bound enough]

/-- The tables say the same about every handle but one, and so does all that reads them: walks in
    every direction with every visitor, subtype tests, and instantiations with their faults. -/
structure AnswersAlikeBut (self : TypeName) (table grown : ClassTable) : Prop where
  get? : ∀ element, element ≠ self.element → grown.get? element = table.get? element
  queries : ∀ name, name ≠ self → table.AnswersAlike grown name
  walks : ∀ start, start ≠ self → ∀ includeSelf lineage bound more, table.walkBound ≤ bound →
    table.walkBound ≤ more → grown.host.lineage more start includeSelf lineage =
      table.host.lineage bound start includeSelf lineage
  subtypes : ∀ sub sup, sub ≠ self → sup ≠ self → ∀ bound more, table.walkBound ≤ bound →
    table.walkBound ≤ more → grown.host.isSubtype more sub sup = table.host.isSubtype bound sub sup
  instantiateIn : ∀ raw, raw ≠ self → ∀ owner args,
    grown.host.instantiateIn owner raw args = table.host.instantiateIn owner raw args
  instantiate : ∀ raw, raw ≠ self → ∀ args,
    grown.host.instantiate raw args = table.host.instantiate raw args

theorem Reachable.answersAlikeBut (reachable : Reachable table) (accepted : table.Accepts draft) :
    AnswersAlikeBut draft.self table (table.extendedBy draft) := by
  have agree := reachable.agreeOn_extendedBy accepted
  have alike : ∀ name ≠ draft.self, table.AnswersAlike (table.extendedBy draft) name :=
    fun name apart => .of_info? (info?_extendedBy_of_ne apart)
  have instantiateIn : ∀ raw ≠ draft.self, ∀ owner args,
      (table.extendedBy draft).host.instantiateIn owner raw args =
        table.host.instantiateIn owner raw args := fun raw apart =>
    Host.instantiateIn_congr (alike raw apart).arity (alike raw apart).enclosing
  refine ⟨fun _ => get?_extendedBy_of_ne, alike, ?_, ?_, instantiateIn, fun raw apart args => ?_⟩
  · intro start apart includeSelf lineage bound more enough enoughMore
    rw [agree.lineage_eq apart, reachable.lineage_eq enough enoughMore]
  · intro sub sup apartSub apartSup bound more enough enoughMore
    rw [agree.isSubtype_eq apartSub apartSup, reachable.isSubtype_eq enough enoughMore]
  · rw [Host.instantiate, Host.instantiate, instantiateIn raw apart]

/-- A declaration that fails leaves the table as it is. One that succeeds changes no answer that is
    not about the new type. -/
theorem declare_conservative (reachable : Reachable table) (declaration : Declaration) :
    (∀ fault, table.declare declaration = .error fault → table.attempt declaration = table) ∧
    ∀ self grown, table.declare declaration = .ok (self, grown) →
      table.attempt declaration = grown ∧ AnswersAlikeBut self table grown := by
  constructor
  · intro fault failed
    rw [attempt, failed]
  · intro self grown declared
    obtain ⟨accepted, rfl, rfl⟩ := declare_eq_ok_iff.mp declared
    refine ⟨?_, reachable.answersAlikeBut accepted⟩
    rw [attempt, declared]

theorem declare_conservative_palette :
    let again : Declaration := ⟨.plainClass, "Base", []⟩
    let below : Declaration := ⟨.plainClass, "Dot", [.extending ⟨.plain "Derived", none⟩]⟩
    Reachable palette ∧ palette.attempt again = palette ∧
      AnswersAlikeBut (.plain "Dot") palette (palette.extendedBy below.draft) := by
  intro again below
  have reachable : Reachable palette := Reachable.initial.attemptAll _
  have fault : palette.firstFault again.draft = some (.duplicate (.plain "Base")) := by
    decide +kernel
  have failed : palette.declare again = .error (.duplicate (.plain "Base")) := by
    rw [declare, register, fault]
  have accepted : palette.Accepts below.draft := firstFault_eq_none_iff.mp (by decide +kernel)
  have declared : palette.declare below = .ok (.plain "Dot", palette.extendedBy below.draft) :=
    declare_eq_ok_iff.mpr ⟨accepted, rfl, rfl⟩
  exact ⟨reachable, (declare_conservative reachable again).1 _ failed,
    ((declare_conservative reachable below).2 _ _ declared).2⟩

end ClassTable

end GenericTypes
