import GenericTypes.MetadataGraph
import GenericTypes.Proofs.Hierarchy.Chain
import GenericTypes.Proofs.Hierarchy.Lattice
import GenericTypes.Proofs.Walk.Stopping

namespace GenericTypes.Walk

variable {α σ : Type} {walk : Walk α} {trace : Trace α}

theorem Follows.mem_of_offered (follows : walk.Follows trace) {visit : Visitor σ α} {s : σ} {a : α}
    (offered : a ∈ walk.offered visit s) : a ∈ trace.sequence := by
  obtain ⟨received, outcome, receives, -, ran⟩ :=
    Outcome.exists_received visit trace.sequence [] s
  have log : walk.offered visit s = received := by
    rw [Walk.offered, follows visit.logged, Trace.run, ran]
    cases outcome with
    | completed => rfl
    | stopped => rfl
    | unfinished => rfl
  rw [log] at offered
  exact receives.begins.subset offered

end GenericTypes.Walk

namespace GenericTypes.Host

variable {H : Type} {host : Host H} {start h : H} {includeSelf : Bool} {bound : Nat}

/-- Superclasses and interfaces lead from the start to the handle, and no root is on the way. -/
inductive BelowRoots (host : Host H) (start : H) : H → Prop where
  | start (below : host.isRoot start = false) : host.BelowRoots start start
  | superclass {lower upper : H} (reached : host.BelowRoots start lower)
      (extended : host.DirectSuperclass lower upper) (below : host.isRoot upper = false) :
      host.BelowRoots start upper
  | interface {lower upper : H} (reached : host.BelowRoots start lower)
      (implemented : host.DirectInterface lower upper) (below : host.isRoot upper = false) :
      host.BelowRoots start upper

def AboveListedRoot (host : Host H) (start h : H) : Prop :=
  host.isRoot start = false ∧ ∃ root, host.isRoot root = true ∧ host.AncestorInterface start root ∧
    Relation.ReflTransGen host.DirectInterface root h

theorem BelowRoots.isRoot_eq_false (reached : host.BelowRoots start h) : host.isRoot h = false := by
  cases reached with
  | start below => exact below
  | superclass _ _ below => exact below
  | interface _ _ below => exact below

theorem belowRoots_of_mem_climbTrace {steps : Nat} {first : Option H}
    (reached : ∀ lower ∈ first, host.isRoot lower = false → host.BelowRoots start lower)
    (member : h ∈ (host.climbTrace steps first).sequence) : host.BelowRoots start h := by
  induction steps generalizing first with
  | zero => cases first <;> simp [climbTrace, Trace.nothing] at member
  | succ steps ih =>
    cases first with
    | none => simp [climbTrace, Trace.nothing] at member
    | some lower =>
      cases climbs : host.isProperClass lower with
      | false => simp [climbTrace, climbs, Trace.nothing] at member
      | true =>
        have self := reached lower rfl (isProperClass_iff.mp climbs).2
        simp only [climbTrace, climbs, ↓reduceIte, Trace.cons, List.mem_cons] at member
        rcases member with rfl | member
        · exact self
        · exact ih (fun upper extended below => .superclass self extended below) member

theorem belowRoots_of_mem_chainTrace
    (member : h ∈ (host.chainTrace bound start includeSelf).sequence) :
    host.BelowRoots start h := by
  refine belowRoots_of_mem_climbTrace (fun lower first below => ?_) member
  cases includeSelf with
  | true =>
    obtain rfl : start = lower := by simpa using first
    exact .start below
  | false =>
    cases proper : host.isProperClass start with
    | false => simp [proper] at first
    | true =>
      have extended : host.superclass start = some lower := by simpa [proper] using first
      exact .superclass (.start (isProperClass_iff.mp proper).2) extended below

theorem belowRoots_or_aboveListedRoot (below : host.isRoot start = false)
    (ancestor : host.AncestorInterface start h) :
    host.BelowRoots start h ∨ host.AboveListedRoot start h := by
  induction ancestor with
  | @single upper direct =>
    cases root : host.isRoot upper with
    | true => exact .inr ⟨below, upper, root, .single direct, .refl⟩
    | false => exact .inl (.interface (.start below) direct root)
  | @tail lower upper path direct ih =>
    rcases ih with reached | ⟨-, root, isRoot, listed, above⟩
    · cases root : host.isRoot upper with
      | true => exact .inr ⟨below, upper, root, path.tail direct, .refl⟩
      | false => exact .inl (.interface reached direct root)
    · exact .inr ⟨below, root, isRoot, listed, above.tail direct⟩

theorem Lattice.root_mem_iff {visits : List H} {root : H}
    (lattice : host.Lattice start includeSelf visits) (isRoot : host.isRoot root = true) :
    root ∈ visits ↔ host.isRoot start = false ∧ host.AncestorInterface start root := by
  cases apex : host.isRoot start with
  | true =>
    cases lattice with
    | root _ => simp
    | above below _ _ => simp [apex] at below
    | self below _ _ => simp [apex] at below
  | false =>
    have other : root ≠ start := by
      rintro rfl
      simp [apex] at isRoot
    rw [lattice.mem_iff apex]
    simp [other]

variable [DecidableEq H]

theorem mem_traceEach {trace : List H → H → Trace H} {seen siblings : List H}
    (member : h ∈ (traceEach trace seen siblings).sequence) :
    ∃ sibling ∈ siblings, h = sibling ∨ ∃ known, h ∈ (trace known sibling).sequence := by
  induction siblings generalizing seen with
  | nil => simp [traceEach, Trace.nothing] at member
  | cons sibling rest ih =>
    have ofRest : ∀ seen, h ∈ (traceEach trace seen rest).sequence →
        ∃ other ∈ sibling :: rest, h = other ∨ ∃ known, h ∈ (trace known other).sequence := by
      intro seen member
      obtain ⟨other, inside, found⟩ := ih member
      exact ⟨other, List.mem_cons_of_mem _ inside, found⟩
    by_cases known : sibling ∈ seen
    · rw [traceEach_known known] at member
      exact ofRest seen member
    · rw [traceEach_fresh known] at member
      rcases List.mem_cons.mp member with rfl | member
      · exact ⟨h, by simp, .inl rfl⟩
      · rcases Trace.mem_andThen member with above | after
        · exact ⟨sibling, by simp, .inr ⟨_, above⟩⟩
        · exact ofRest _ after

theorem ancestor_of_mem_traceAbove {depth : Nat} {seen : List H}
    (member : h ∈ (host.traceAbove depth seen start).sequence) :
    host.AncestorInterface start h := by
  induction depth generalizing seen start with
  | zero => simp [traceAbove] at member
  | succ depth ih =>
    obtain ⟨sibling, direct, found⟩ := mem_traceEach member
    rcases found with rfl | ⟨_, above⟩
    · exact .single direct
    · exact .head direct (ih above)

theorem mem_latticeTrace (member : h ∈ (host.latticeTrace bound start includeSelf).sequence) :
    host.BelowRoots start h ∨ host.AboveListedRoot start h := by
  cases root : host.isRoot start with
  | true => simp [latticeTrace, root, Trace.nothing] at member
  | false =>
    simp only [latticeTrace, root, Bool.false_eq_true, ↓reduceIte] at member
    split at member
    · rcases List.mem_cons.mp member with rfl | member
      · exact .inl (.start root)
      · exact belowRoots_or_aboveListedRoot root (ancestor_of_mem_traceAbove member)
    · exact belowRoots_or_aboveListedRoot root (ancestor_of_mem_traceAbove member)

theorem mem_lineageTrace {lineage : Lineage}
    (member : h ∈ (host.lineageTrace bound start includeSelf lineage).sequence) :
    host.BelowRoots start h ∨ (lineage ≠ .chain ∧ host.AboveListedRoot start h) := by
  cases lineage with
  | chain => exact .inl (belowRoots_of_mem_chainTrace member)
  | lattice => exact (mem_latticeTrace member).imp_right fun listed => ⟨by decide, listed⟩
  | all =>
    simp only [lineageTrace] at member
    split at member
    · exact (mem_latticeTrace member).imp_right fun listed => ⟨by decide, listed⟩
    · rcases Trace.mem_andThen member with onChain | above
      · exact .inl (belowRoots_of_mem_chainTrace onChain)
      · exact (mem_latticeTrace above).imp_right fun listed => ⟨by decide, listed⟩

theorem Chain.root_mem_lineage_iff {classes : List H} {root : H}
    (chain : host.Chain (some start) classes) (enoughSteps : classes.length < bound)
    (finite : {h | host.AncestorInterface start h}.Finite)
    (enoughDepth : {h | host.AncestorInterface start h}.ncard < bound)
    (isRoot : host.isRoot root = true) (includeSelf : Bool) (lineage : Lineage) :
    root ∈ (host.lineage bound start includeSelf lineage).toList ↔
      lineage ≠ .chain ∧ host.isRoot start = false ∧ host.AncestorInterface start root := by
  have chainOffers := chain.superclassChain_offers enoughSteps includeSelf
  have notOnChain : root ∉ if includeSelf then classes else classes.tail := by
    intro member
    have onChain : root ∈ classes := by
      cases includeSelf with
      | true => exact member
      | false => exact List.mem_of_mem_tail member
    have proper := chain.proper_of_mem onChain
    simp [(isProperClass_iff.mp proper).2] at isRoot
  have inLattice : ∀ includeSelf, ∃ visits,
      (host.interfaceLattice bound start includeSelf).Offers visits ∧
        (root ∈ visits ↔ host.isRoot start = false ∧ host.AncestorInterface start root) := by
    intro includeSelf
    obtain ⟨visits, lattice, offers⟩ := exists_lattice_offers finite enoughDepth includeSelf
    exact ⟨visits, offers, lattice.root_mem_iff isRoot⟩
  cases lineage with
  | chain =>
    rw [Host.lineage, chainOffers.follows.toList_eq]
    exact iff_of_false notOnChain fun listed => listed.1 rfl
  | lattice =>
    obtain ⟨visits, offers, listed⟩ := inLattice includeSelf
    rw [Host.lineage, offers.follows.toList_eq, listed]
    simp
  | all =>
    cases interface : host.isInterface start with
    | true =>
      obtain ⟨visits, offers, listed⟩ := inLattice includeSelf
      simp [Host.lineage, ancestors, interface, offers.follows.toList_eq, listed]
    | false =>
      obtain ⟨visits, offers, listed⟩ := inLattice false
      have both := (chainOffers.append offers).follows.toList_eq
      simp [Host.lineage, ancestors, interface, both, List.mem_append, notOnChain, listed]

/-- Every handle that a walk offers is reached below the roots, except above a root that the
    interfaces above the start list: a chain never gets there, but a lattice walk visits every such
    root. -/
theorem offered_below_roots (host : Host H) (start : H) (includeSelf : Bool) (lineage : Lineage) :
    (∀ bound {σ : Type} (visit : Visitor σ H) (s : σ),
      ∀ h ∈ (host.lineage bound start includeSelf lineage).offered visit s,
        host.BelowRoots start h ∨ (lineage ≠ .chain ∧ host.AboveListedRoot start h)) ∧
    ∀ classes, host.Chain (some start) classes → {h | host.AncestorInterface start h}.Finite →
      ∀ bound, classes.length < bound → {h | host.AncestorInterface start h}.ncard < bound →
        ∀ root, host.isRoot root = true →
          (root ∈ (host.lineage bound start includeSelf lineage).toList ↔
            lineage ≠ .chain ∧ host.isRoot start = false ∧ host.AncestorInterface start root) := by
  constructor
  · intro bound σ visit s h offered
    have follows := host.lineage_follows bound start includeSelf lineage
    exact mem_lineageTrace (follows.mem_of_offered offered)
  · intro classes chain finite bound enoughSteps enoughDepth root isRoot
    exact chain.root_mem_lineage_iff enoughSteps finite enoughDepth isRoot includeSelf lineage

end GenericTypes.Host

namespace GenericTypes.MetadataGraph

def crowned : MetadataGraph where
  nodes := [("Any", { isInterface := true }),
    ("Shape", { isInterface := true, interfaces := ["Any"] }),
    ("Circle", { interfaces := ["Shape"] })]
  roots := some ["Any"]

theorem crowned_visits_root :
    let walk := crowned.host.interfaceLattice 4 (crowned.vertex "Circle") false
    crowned.host.isRoot (crowned.vertex "Any") = true ∧ walk.outcome = .completed ∧
      walk.toList = [crowned.vertex "Shape", crowned.vertex "Any"] := by
  decide +kernel

/-- Here the walks that climb the interfaces visit the root, and the chain does not. -/
theorem offered_below_roots_crowned :
    let circle := crowned.vertex "Circle"
    let root := crowned.vertex "Any"
    crowned.host.isRoot root = true ∧ crowned.host.Chain (some circle) [circle] ∧
      {h | crowned.host.AncestorInterface circle h}.Finite ∧
      {h | crowned.host.AncestorInterface circle h}.ncard < 3 ∧
      ∀ includeSelf lineage,
        root ∈ (crowned.host.lineage 3 circle includeSelf lineage).toList ↔ lineage ≠ .chain := by
  intro circle root
  let shape := crowned.vertex "Shape"
  have isRoot : crowned.host.isRoot root = true := by decide +kernel
  have below : crowned.host.isRoot circle = false := by decide +kernel
  have chain : crowned.host.Chain (some circle) [circle] :=
    .proper (by decide +kernel) .unextended
  have ofCircle : ∀ h, crowned.host.DirectInterface circle h ↔ h = shape := by
    intro h
    have interfaces : crowned.host.interfaces circle = [shape] := by decide +kernel
    rw [Host.DirectInterface, interfaces, List.mem_singleton]
  have ofShape : ∀ h, crowned.host.DirectInterface shape h ↔ h = root := by
    intro h
    have interfaces : crowned.host.interfaces shape = [root] := by decide +kernel
    rw [Host.DirectInterface, interfaces, List.mem_singleton]
  have ofRoot : ∀ h, ¬ crowned.host.DirectInterface root h := by
    intro h
    have interfaces : crowned.host.interfaces root = [] := by decide +kernel
    rw [Host.DirectInterface, interfaces]
    exact List.not_mem_nil
  have listed : crowned.host.AncestorInterface circle root :=
    .tail (.single ((ofCircle shape).mpr rfl)) ((ofShape root).mpr rfl)
  have above : {h | crowned.host.AncestorInterface circle h} ⊆ {shape, root} := by
    intro h ancestor
    induction ancestor with
    | single direct => exact .inl ((ofCircle _).mp direct)
    | tail _ direct ih =>
      rcases ih with rfl | rfl
      · exact .inr ((ofShape _).mp direct)
      · exact absurd direct (ofRoot _)
  have finite : {h | crowned.host.AncestorInterface circle h}.Finite :=
    (Set.toFinite {shape, root}).subset above
  have enough : {h | crowned.host.AncestorInterface circle h}.ncard < 3 := by
    have atMost := (Set.ncard_le_ncard above).trans (Set.ncard_insert_le shape {root})
    rw [Set.ncard_singleton] at atMost
    omega
  refine ⟨isRoot, chain, finite, enough, fun includeSelf lineage => ?_⟩
  have visited := (Host.offered_below_roots crowned.host circle includeSelf lineage).2
  rw [visited [circle] chain finite 3 (by decide) enough root isRoot]
  simp only [below, listed, and_self, and_true]

end GenericTypes.MetadataGraph
