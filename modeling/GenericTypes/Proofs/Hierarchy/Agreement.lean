import GenericTypes.Hierarchy.Ancestors
import GenericTypes.Hierarchy.Subtype
import GenericTypes.Proofs.Hierarchy.Ascent

namespace GenericTypes.Host

variable {H σ : Type} {host other : Host H} {region : Set H} {h start sub sup target : H}

structure AgreeOn (region : Set H) (host other : Host H) : Prop where
  isInterface : ∀ h ∈ region, other.isInterface h = host.isInterface h
  isRoot : ∀ h ∈ region, other.isRoot h = host.isRoot h
  superclass : ∀ h ∈ region, other.superclass h = host.superclass h
  interfaces : ∀ h ∈ region, other.interfaces h = host.interfaces h
  superclass_mem : ∀ h ∈ region, ∀ upper ∈ host.superclass h, upper ∈ region
  interfaces_mem : ∀ h ∈ region, ∀ upper ∈ host.interfaces h, upper ∈ region

theorem AgreeOn.isProperClass_eq (agree : AgreeOn region host other) (inside : h ∈ region) :
    other.isProperClass h = host.isProperClass h := by
  rw [isProperClass, agree.isInterface h inside, agree.isRoot h inside, isProperClass]

theorem AgreeOn.climb_eq (agree : AgreeOn region host other) (visit : Visitor σ H) (steps : Nat)
    (s : σ) {first : Option H} (inside : ∀ h ∈ first, h ∈ region) :
    other.climb visit steps s first = host.climb visit steps s first := by
  induction steps generalizing s first with
  | zero => cases first <;> rfl
  | succ steps ih =>
    cases first with
    | none => rfl
    | some h =>
      have self : h ∈ region := inside h rfl
      simp only [climb, agree.isProperClass_eq self, agree.superclass h self]
      split
      · exact Outcome.andThen_congr fun s _ => ih s (agree.superclass_mem h self)
      · rfl

theorem AgreeOn.superclassChain_eq (agree : AgreeOn region host other) (inside : start ∈ region)
    (bound : Nat) (includeSelf : Bool) :
    other.superclassChain bound start includeSelf =
      host.superclassChain bound start includeSelf := by
  apply Walk.eq_of_run
  intro σ visit s
  simp only [superclassChain, agree.isProperClass_eq inside, agree.superclass start inside]
  refine agree.climb_eq visit bound s fun h first => ?_
  split at first
  · obtain rfl : start = h := by simpa using first
    exact inside
  · split at first
    · exact agree.superclass_mem start inside h first
    · simp at first

variable [DecidableEq H]

theorem AgreeOn.visitAbove_eq (agree : AgreeOn region host other) (visit : Visitor σ H)
    (depth : Nat) (state : σ × Visited H) (inside : h ∈ region) :
    other.visitAbove visit depth state h = host.visitAbove visit depth state h := by
  induction depth generalizing state h with
  | zero => rfl
  | succ depth ih =>
    rw [visitAbove_succ, visitAbove_succ, agree.interfaces h inside]
    refine Outcome.forEach_congr (fun upper direct state => ?_) state
    have above := agree.interfaces_mem h inside upper direct
    obtain ⟨s, ⟨seen⟩⟩ := state
    by_cases known : upper ∈ seen
    · rw [ascendTo_known visit depth s known, ascendTo_known visit depth s known]
    · rw [ascendTo_fresh visit depth s known, ascendTo_fresh visit depth s known]
      exact Outcome.andThen_congr fun state _ => ih state above

theorem AgreeOn.latticeFrom_eq (agree : AgreeOn region host other) (visit : Visitor σ H)
    (bound : Nat) (inside : start ∈ region) (includeSelf : Bool) (state : σ × Visited H) :
    other.latticeFrom visit bound start includeSelf state =
      host.latticeFrom visit bound start includeSelf state := by
  have above : ∀ state, other.visitAbove visit bound state start =
      host.visitAbove visit bound state start :=
    fun state => agree.visitAbove_eq visit bound state inside
  simp only [latticeFrom, agree.isRoot start inside, agree.isInterface start inside, above]

theorem AgreeOn.interfaceLattice_eq (agree : AgreeOn region host other) (inside : start ∈ region)
    (bound : Nat) (includeSelf : Bool) :
    other.interfaceLattice bound start includeSelf =
      host.interfaceLattice bound start includeSelf := by
  apply Walk.eq_of_run
  intro σ visit s
  simp only [interfaceLattice, agree.latticeFrom_eq visit bound inside]

theorem AgreeOn.lineage_eq (agree : AgreeOn region host other) (inside : start ∈ region)
    (bound : Nat) (includeSelf : Bool) (lineage : Lineage) :
    other.lineage bound start includeSelf lineage =
      host.lineage bound start includeSelf lineage := by
  have chain := agree.superclassChain_eq inside bound
  have lattice := agree.interfaceLattice_eq inside bound
  cases lineage with
  | chain => exact chain includeSelf
  | lattice => exact lattice includeSelf
  | all => simp only [Host.lineage, ancestors, agree.isInterface start inside, chain, lattice]

theorem AgreeOn.searchAbove_eq (agree : AgreeOn region host other) (target : H) (bound steps : Nat)
    (seen : Visited H) {first : Option H} (inside : ∀ h ∈ first, h ∈ region) :
    other.searchAbove target bound steps seen first =
      host.searchAbove target bound steps seen first := by
  induction steps generalizing seen first with
  | zero => cases first <;> rfl
  | succ steps ih =>
    cases first with
    | none => rfl
    | some h =>
      have self : h ∈ region := inside h rfl
      have above : ∀ seen, other.searchAbove target bound steps seen (host.superclass h) =
          host.searchAbove target bound steps seen (host.superclass h) :=
        fun seen => ih seen (agree.superclass_mem h self)
      simp only [searchAbove, agree.isProperClass_eq self, agree.superclass h self,
        agree.latticeFrom_eq (seek target) bound self, above]

theorem AgreeOn.subtypeSearch_eq (agree : AgreeOn region host other) (insideSub : sub ∈ region)
    (insideSup : sup ∈ region) (bound : Nat) :
    other.subtypeSearch bound sub sup = host.subtypeSearch bound sub sup := by
  have above : other.searchAbove sup bound bound .empty (some sub) =
      host.searchAbove sup bound bound .empty (some sub) :=
    agree.searchAbove_eq sup bound bound .empty (by simpa using insideSub)
  simp only [subtypeSearch, agree.isRoot sup insideSup, agree.isInterface sub insideSub,
    agree.latticeFrom_eq (seek sup) bound insideSub, above]

theorem AgreeOn.isSubtype_eq (agree : AgreeOn region host other) (insideSub : sub ∈ region)
    (insideSup : sup ∈ region) (bound : Nat) :
    other.isSubtype bound sub sup = host.isSubtype bound sub sup := by
  rw [isSubtype, agree.subtypeSearch_eq insideSub insideSup, isSubtype]

end GenericTypes.Host
