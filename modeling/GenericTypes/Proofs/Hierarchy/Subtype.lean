import GenericTypes.Hierarchy.Subtype
import GenericTypes.Proofs.Hierarchy.Chain
import GenericTypes.Proofs.Hierarchy.Lattice

namespace GenericTypes.Outcome

variable {outcome : Outcome} {found other : Prop}

/-- How a search ends: it is stopped at a match, and completed where there is none. -/
inductive Decides (found : Prop) : Outcome → Prop where
  | found (holds : found) : Decides found .stopped
  | missed (absent : ¬ found) : Decides found .completed

theorem Decides.ne_unfinished (decides : outcome.Decides found) : outcome ≠ .unfinished := by
  cases decides <;> simp

theorem Decides.stopped_iff (decides : outcome.Decides found) : outcome = .stopped ↔ found := by
  cases decides with
  | found holds => simp [holds]
  | missed absent => simp [absent]

theorem Decides.congr (decides : outcome.Decides found) (same : found ↔ other) :
    outcome.Decides other := by
  cases decides with
  | found holds => exact .found (same.mp holds)
  | missed absent => exact .missed fun holds => absent (same.mpr holds)

end GenericTypes.Outcome

namespace GenericTypes.Host

variable {H : Type} {host : Host H} {start sub sup target h : H} {classes seen visits : List H}
  {region : Finset H} {bound : Nat}

/-- Searches of several lattices share a record that none of them has left open: a handle that is
    not on it lies above the next start exactly if the ascent from there visits it. -/
theorem Ascent.mem_iff_of_closed (ascent : host.Ascent seen (host.interfaces start) visits)
    (closedSeen : ∀ other ∈ seen, ∀ upper ∈ host.interfaces other, upper ∈ seen)
    (unseen : h ∉ seen) : h ∈ visits ↔ host.AncestorInterface start h := by
  constructor
  · exact ascent.ancestor
  · intro ancestor
    have covered :=
      ascent.covers_ancestors (fun other known => .inr (closedSeen other known)) ancestor
    exact covered.resolve_left unseen

variable [DecidableEq H]

theorem forEach_offer_seek (target : H) (visits : List H) :
    Outcome.forEach (Outcome.offer (seek target)) visits () =
      ((), if target ∈ visits then .stopped else .completed) := by
  induction visits with
  | nil => simp [Outcome.forEach]
  | cons h rest ih =>
    by_cases found : h = target
    · have stops : (seek target () h).2 = .stop := by simp [seek, Flow.ofBool, found]
      rw [Outcome.forEach, Outcome.offer_of_stop stops]
      simp [Outcome.andThen, found]
    · have proceeds : (seek target () h).2 = .proceed := by simp [seek, Flow.ofBool, found]
      rw [Outcome.forEach, Outcome.offer_of_proceed proceeds]
      simpa [Outcome.andThen, Ne.symm found] using ih

theorem Ascent.latticeFrom_seek (ascent : host.Ascent seen (host.interfaces start) visits)
    (below : host.isRoot start = false) (deep : visits.length < bound) (target : H) :
    (target ∈ visits → ∃ state,
        host.latticeFrom (seek target) bound start false ((), ⟨seen⟩) = (state, .stopped)) ∧
      (target ∉ visits → host.latticeFrom (seek target) bound start false ((), ⟨seen⟩) =
        (((), ⟨visits.reverse ++ seen⟩), .completed)) := by
  have ran := ascent.latticeFrom_eq below (seek target) deep ()
  have projected := forEach_offerNew_fst (seek target) visits () ⟨seen⟩
  rw [forEach_offer_seek, ← ran] at projected
  cases searched : host.latticeFrom (seek target) bound start false ((), ⟨seen⟩) with
  | mk state outcome =>
    have ended : outcome = if target ∈ visits then .stopped else .completed := by
      simpa [searched] using congrArg Prod.snd projected
    constructor
    · intro found
      exact ⟨state, by rw [ended, if_pos found]⟩
    · intro missing
      obtain rfl : outcome = .completed := by rw [ended, if_neg missing]
      have recorded := forEach_offerNew_completed ascent.nodup (fun _ => ascent.not_mem_seen)
        (ran.symm.trans searched)
      rw [← recorded]

theorem Chain.searchAbove_decides {first : Option H} (chain : host.Chain first classes)
    (closed : host.ClosedRegion region)
    (inside : ∀ c ∈ classes, ∀ upper ∈ host.interfaces c, upper ∈ region)
    (enoughDepth : region.card < bound) {steps : Nat} (enoughSteps : classes.length < steps)
    (closedSeen : ∀ other ∈ seen, ∀ upper ∈ host.interfaces other, upper ∈ seen)
    (unseen : target ∉ seen) :
    (host.searchAbove target bound steps ⟨seen⟩ first).Decides
      (∃ c ∈ classes, c = target ∨ host.AncestorInterface c target) := by
  -- The record stays closed and free of the target from one class to the next.
  induction chain generalizing steps seen with
  | unextended => simpa [searchAbove] using .missed (by simp)
  | apex stops =>
    obtain _ | steps := steps
    · simp at enoughSteps
    · simpa [searchAbove, stops] using .missed (by simp)
  | @proper c above climbs rest ih =>
    obtain _ | steps := steps
    · simp at enoughSteps
    have below := (isProperClass_iff.mp climbs).2
    obtain ⟨visits, ascent⟩ := exists_ascent closed seen (host.interfaces c) (inside c (by simp))
    have deep := Nat.lt_of_le_of_lt (ascent.length_le closed (inside c (by simp))) enoughDepth
    obtain ⟨onFound, onMissing⟩ := ascent.latticeFrom_seek below deep target
    have found_iff := ascent.mem_iff_of_closed closedSeen unseen
    simp only [searchAbove, climbs, Bool.not_true, Bool.false_eq_true, ↓reduceIte]
    by_cases same : c = target
    · rw [if_pos same]
      exact .found ⟨c, by simp, .inl same⟩
    rw [if_neg same]
    by_cases found : target ∈ visits
    · obtain ⟨state, stopped⟩ := onFound found
      rw [stopped]
      exact .found ⟨c, by simp, .inr (found_iff.mp found)⟩
    · have closedVisits : ∀ other ∈ visits.reverse ++ seen, ∀ upper ∈ host.interfaces other,
          upper ∈ visits.reverse ++ seen := by
        intro other recorded upper direct
        simp only [List.mem_append, List.mem_reverse] at recorded ⊢
        rcases recorded with visited | known
        · exact (ascent.closed visited direct).symm
        · exact .inr (closedSeen other known upper direct)
      have insideAbove : ∀ other ∈ above, ∀ upper ∈ host.interfaces other, upper ∈ region :=
        fun other member => inside other (List.mem_cons_of_mem _ member)
      have searchedRest := ih insideAbove (Nat.lt_of_succ_lt_succ enoughSteps) closedVisits
        (by simp [found, unseen])
      have notAbove : ¬ host.AncestorInterface c target :=
        fun ancestor => found (found_iff.mpr ancestor)
      rw [onMissing found]
      exact searchedRest.congr (by simp [same, notAbove])

theorem Chain.subtypeSearch_decides (chain : host.Chain (some sub) classes)
    (enoughSteps : classes.length < bound) (closed : host.ClosedRegion region)
    (inside : ∀ c ∈ sub :: classes, ∀ upper ∈ host.interfaces c, upper ∈ region)
    (enoughDepth : region.card < bound) (sup : H) :
    (host.subtypeSearch bound sub sup).Decides
      (sub = sup ∨ host.isRoot sup = true ∨ sup ∈ classes ∨
        ∃ c ∈ sub :: classes, host.isRoot c = false ∧ host.AncestorInterface c sup) := by
  simp only [subtypeSearch, decide_eq_true_eq, Bool.or_eq_true]
  by_cases trivial : sub = sup ∨ host.isRoot sup = true
  · rw [if_pos trivial]
    exact .found (or_assoc.mp (.inl trivial))
  rw [if_neg trivial]
  obtain ⟨differs, notRoot⟩ := not_or.mp trivial
  cases interface : host.isInterface sub with
  | true =>
    -- An interface is on no chain, so the search is that of its lattice alone.
    have noClasses : classes = [] := by
      cases chain with
      | apex _ => rfl
      | proper climbs _ => simp [isProperClass, interface] at climbs
    subst noClasses
    simp only [↓reduceIte, Visited.empty]
    cases root : host.isRoot sub with
    | true =>
      simp only [latticeFrom, root, ↓reduceIte]
      exact .missed (by simp [differs, notRoot, root])
    | false =>
      obtain ⟨visits, ascent⟩ :=
        exists_ascent closed [] (host.interfaces sub) (inside sub (by simp))
      have deep := Nat.lt_of_le_of_lt (ascent.length_le closed (inside sub (by simp))) enoughDepth
      obtain ⟨onFound, onMissing⟩ := ascent.latticeFrom_seek root deep sup
      have found_iff := ascent.mem_iff_of_closed (h := sup) (by simp) (by simp)
      by_cases found : sup ∈ visits
      · obtain ⟨state, stopped⟩ := onFound found
        rw [stopped]
        exact .found (.inr (.inr (.inr ⟨sub, by simp, root, found_iff.mp found⟩)))
      · have notAbove : ¬ host.AncestorInterface sub sup :=
          fun ancestor => found (found_iff.mpr ancestor)
        rw [onMissing found]
        exact .missed (by simp [differs, notRoot, notAbove])
  | false =>
    have insideClasses : ∀ c ∈ classes, ∀ upper ∈ host.interfaces c, upper ∈ region :=
      fun c member => inside c (List.mem_cons_of_mem _ member)
    have searched : (host.searchAbove sup bound bound .empty (some sub)).Decides
        (∃ c ∈ classes, c = sup ∨ host.AncestorInterface c sup) :=
      chain.searchAbove_decides closed insideClasses enoughDepth enoughSteps (by simp) (by simp)
    refine searched.congr ?_
    simp only [differs, notRoot, Bool.false_eq_true, false_or]
    constructor
    · rintro ⟨c, member, rfl | ancestor⟩
      · exact .inl member
      · have below := (isProperClass_iff.mp (chain.proper_of_mem member)).2
        exact .inr ⟨c, List.mem_cons_of_mem _ member, below, ancestor⟩
    · rintro (member | ⟨c, member, below, ancestor⟩)
      · exact ⟨sup, member, .inl rfl⟩
      · have onChain : c ∈ classes := by
          rcases List.mem_cons.mp member with rfl | member
          · exact chain.start_mem (isProperClass_iff.mpr ⟨interface, below⟩)
          · exact member
        exact ⟨c, onChain, .inr ancestor⟩

theorem Chain.isSubtype_iff (chain : host.Chain (some sub) classes)
    (enoughSteps : classes.length < bound) (closed : host.ClosedRegion region)
    (inside : ∀ c ∈ sub :: classes, ∀ upper ∈ host.interfaces c, upper ∈ region)
    (enoughDepth : region.card < bound) :
    host.isSubtype bound sub sup = true ↔
      sub = sup ∨ host.isRoot sup = true ∨ sup ∈ classes ∨
        ∃ c ∈ sub :: classes, host.isRoot c = false ∧ host.AncestorInterface c sup := by
  rw [isSubtype, decide_eq_true_iff]
  exact (chain.subtypeSearch_decides enoughSteps closed inside enoughDepth sup).stopped_iff

theorem interfaceLattice_lists_ancestors (closed : host.ClosedRegion region)
    (inside : ∀ upper ∈ host.interfaces start, upper ∈ region) (enough : region.card < bound) :
    (host.interfaceLattice bound start false).outcome = .completed ∧
      ∀ h, h ∈ (host.interfaceLattice bound start false).toList ↔
        host.isRoot start = false ∧ host.AncestorInterface start h := by
  obtain ⟨visits, lattice⟩ := exists_lattice closed inside false
  have follows := (lattice.offers closed inside enough).follows
  refine ⟨follows.outcome_eq, fun h => ?_⟩
  rw [follows.toList_eq]
  cases root : host.isRoot start with
  | true => simp [lattice.eq_nil_of_root root]
  | false => simpa using lattice.mem_iff (h := h) root

/-- The subtype test agrees with separate walks of the superclass chain and of the interface
    lattices, although its searches share one record and stop at the first match. -/
theorem isSubtype_iff_mem_walks (host : Host H) (sub sup : H) {classes : List H}
    (chain : host.Chain (some sub) classes)
    (finite : {h | ∃ c ∈ sub :: classes, host.AncestorInterface c h}.Finite) {bound : Nat}
    (enoughSteps : classes.length < bound)
    (enoughDepth : {h | ∃ c ∈ sub :: classes, host.AncestorInterface c h}.ncard < bound) :
    let superclasses := host.superclassChain bound sub true
    let interfaces := fun c => host.interfaceLattice bound c false
    host.subtypeSearch bound sub sup ≠ .unfinished ∧
    superclasses.outcome = .completed ∧
    (∀ c ∈ sub :: superclasses.toList, (interfaces c).outcome = .completed) ∧
    (host.isSubtype bound sub sup = true ↔
      sub = sup ∨ host.isRoot sup = true ∨ sup ∈ superclasses.toList ∨
        sup ∈ (interfaces sub).toList ∨
        ∃ c ∈ superclasses.toList, sup ∈ (interfaces c).toList) := by
  intro superclasses interfaces
  obtain ⟨region, size, closed, inside⟩ :=
    host.exists_region (sub :: classes) finite fun h => Iff.rfl
  rw [← size] at enoughDepth
  have follows := (chain.superclassChain_offers enoughSteps true).follows
  have listed : superclasses.toList = classes := follows.toList_eq
  have lists := fun c onChain =>
    interfaceLattice_lists_ancestors closed (inside c onChain) enoughDepth
  have above : (∃ c ∈ sub :: classes, host.isRoot c = false ∧ host.AncestorInterface c sup) ↔
      sup ∈ (interfaces sub).toList ∨ ∃ c ∈ classes, sup ∈ (interfaces c).toList := by
    have same : ∀ c ∈ sub :: classes,
        (host.isRoot c = false ∧ host.AncestorInterface c sup ↔ sup ∈ (interfaces c).toList) :=
      fun c onChain => ((lists c onChain).2 sup).symm
    rw [exists_congr fun c => and_congr_right (same c)]
    simp
  refine ⟨(chain.subtypeSearch_decides enoughSteps closed inside enoughDepth sup).ne_unfinished,
    follows.outcome_eq, fun c onChain => ?_, ?_⟩
  · rw [listed] at onChain
    exact (lists c onChain).1
  · rw [chain.isSubtype_iff enoughSteps closed inside enoughDepth, listed, above]

/-- Two classes below an overridden root, whose own superclass closes a cycle. The interfaces of the
    second class lie partly on a cycle that is also above the first one. -/
def knotted : Host (Fin 7) where
  isInterface h := 3 ≤ h
  superclass h :=
    match h with
    | 0 => some 1
    | 1 => some 2
    | 2 => some 0
    | _ => none
  interfaces h :=
    match h with
    | 0 => [3]
    | 1 => [4, 6]
    | 2 => [5]
    | 3 => [4]
    | 4 => [3, 4]
    | _ => []
  enclosing _ := none
  arity _ := 0
  arrayHandle h := h
  isRoot h := h = 2

theorem isSubtype_knotted_iff :
    knotted.Chain (some 0) [0, 1] ∧
      {h | ∃ c ∈ [0, 0, 1], knotted.AncestorInterface c h}.ncard < 8 ∧
      ∀ sup, knotted.isSubtype 8 0 sup = true ↔
        0 = sup ∨ knotted.isRoot sup = true ∨ sup ∈ (knotted.superclassChain 8 0 true).toList ∨
          sup ∈ (knotted.interfaceLattice 8 0 false).toList ∨
          ∃ c ∈ (knotted.superclassChain 8 0 true).toList,
            sup ∈ (knotted.interfaceLattice 8 c false).toList := by
  have chain : knotted.Chain (some 0) [0, 1] :=
    .proper (by decide) (.proper (by decide) (.apex (by decide)))
  have finite : {h | ∃ c ∈ [0, 0, 1], knotted.AncestorInterface c h}.Finite := Set.toFinite _
  have enoughDepth : {h | ∃ c ∈ [0, 0, 1], knotted.AncestorInterface c h}.ncard < 8 := by
    have bound := Set.ncard_le_card {h | ∃ c ∈ [0, 0, 1], knotted.AncestorInterface c h}
    rw [Nat.card_eq_fintype_card, Fintype.card_fin] at bound
    omega
  refine ⟨chain, enoughDepth, fun sup => ?_⟩
  exact (isSubtype_iff_mem_walks knotted 0 sup chain finite (by decide) enoughDepth).2.2.2

example : (List.finRange 7).filter (knotted.isSubtype 8 0) = [0, 1, 2, 3, 4, 6] := by decide

end GenericTypes.Host
