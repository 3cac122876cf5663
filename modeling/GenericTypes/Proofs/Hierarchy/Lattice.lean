import GenericTypes.Proofs.Hierarchy.Traces

namespace GenericTypes.Host

variable {H : Type} {host : Host H} {start h : H} {includeSelf : Bool} {visits : List H}
  {region : Finset H}

/-- The sequence that a lattice walk visits. A start that is visited itself counts as seen. -/
inductive Lattice (host : Host H) (start : H) : Bool → List H → Prop where
  | root {includeSelf : Bool} (apex : host.isRoot start = true) : host.Lattice start includeSelf []
  | above {includeSelf : Bool} {visits : List H} (below : host.isRoot start = false)
      (unvisited : (includeSelf && host.isInterface start) = false)
      (ascent : host.Ascent [] (host.interfaces start) visits) :
      host.Lattice start includeSelf visits
  | self {above : List H} (below : host.isRoot start = false)
      (interface : host.isInterface start = true)
      (ascent : host.Ascent [start] (host.interfaces start) above) :
      host.Lattice start true (start :: above)

theorem Lattice.nodup (lattice : host.Lattice start includeSelf visits) : visits.Nodup := by
  cases lattice with
  | root _ => exact List.nodup_nil
  | above _ _ ascent => exact ascent.nodup
  | self _ _ ascent =>
    exact List.nodup_cons.mpr ⟨fun again => ascent.not_mem_seen again (by simp), ascent.nodup⟩

theorem Lattice.eq_nil_of_root (lattice : host.Lattice start includeSelf visits)
    (apex : host.isRoot start = true) : visits = [] := by
  cases lattice with
  | root _ => rfl
  | above below _ _ => simp [apex] at below
  | self below _ _ => simp [apex] at below

theorem Ascent.covers_ancestors {seen : List H}
    (onlyStart : ∀ other ∈ seen, other = start ∨ ∀ upper ∈ host.interfaces other, upper ∈ seen)
    (ascent : host.Ascent seen (host.interfaces start) visits)
    (ancestor : host.AncestorInterface start h) : h ∈ seen ∨ h ∈ visits := by
  induction ancestor with
  | single direct => exact ascent.covers direct
  | tail _ direct ih =>
    rcases ih with known | visited
    · rcases onlyStart _ known with rfl | closed
      · exact ascent.covers direct
      · exact .inl (closed _ direct)
    · exact ascent.closed visited direct

theorem Ascent.ancestor {seen : List H} (ascent : host.Ascent seen (host.interfaces start) visits)
    (visited : h ∈ visits) : host.AncestorInterface start h := by
  obtain ⟨_, direct, path⟩ := ascent.reached visited
  exact .head' direct path

theorem Lattice.mem_iff (lattice : host.Lattice start includeSelf visits)
    (below : host.isRoot start = false) :
    h ∈ visits ↔ host.AncestorInterface start h ∨
      (includeSelf = true ∧ host.isInterface start = true ∧ h = start) := by
  cases lattice with
  | root apex => simp [apex] at below
  | above _ unvisited ascent =>
    constructor
    · exact fun visited => .inl (ascent.ancestor visited)
    · intro above
      rcases above with ancestor | ⟨rfl, interface, -⟩
      · exact (ascent.covers_ancestors (by simp) ancestor).resolve_left (by simp)
      · simp [interface] at unvisited
  | self _ interface ascent =>
    constructor
    · intro visited
      rcases List.mem_cons.mp visited with rfl | visited
      · exact .inr ⟨rfl, interface, rfl⟩
      · exact .inl (ascent.ancestor visited)
    · intro above
      rcases above with ancestor | ⟨-, -, rfl⟩
      · have covered := ascent.covers_ancestors (by simp) ancestor
        simpa using covered
      · simp

variable [DecidableEq H]

theorem exists_lattice (closed : host.ClosedRegion region)
    (inside : ∀ upper ∈ host.interfaces start, upper ∈ region) (includeSelf : Bool) :
    ∃ visits, host.Lattice start includeSelf visits := by
  cases root : host.isRoot start with
  | true => exact ⟨[], .root root⟩
  | false =>
    cases visited : includeSelf && host.isInterface start with
    | false =>
      obtain ⟨visits, ascent⟩ := exists_ascent closed [] (host.interfaces start) inside
      exact ⟨visits, .above root visited ascent⟩
    | true =>
      obtain ⟨rfl, interface⟩ : includeSelf = true ∧ host.isInterface start = true := by
        simpa using visited
      obtain ⟨above, ascent⟩ := exists_ascent closed [start] (host.interfaces start) inside
      exact ⟨start :: above, .self root interface ascent⟩

theorem Lattice.trace_eq (lattice : host.Lattice start includeSelf visits)
    (closed : host.ClosedRegion region) (inside : ∀ upper ∈ host.interfaces start, upper ∈ region)
    {bound : Nat} (enough : region.card < bound) :
    host.latticeTrace bound start includeSelf = ⟨visits, .completed⟩ := by
  cases lattice with
  | root apex => simp [latticeTrace, apex, Trace.nothing]
  | above below unvisited ascent =>
    have deep := Nat.lt_of_le_of_lt (ascent.length_le closed inside) enough
    simp [latticeTrace, below, unvisited, ascent.traceAbove_eq deep]
  | self below interface ascent =>
    have deep := Nat.lt_of_le_of_lt (ascent.length_le closed inside) enough
    simp [latticeTrace, below, interface, ascent.traceAbove_eq deep, Trace.cons]

theorem Lattice.offers (lattice : host.Lattice start includeSelf visits)
    (closed : host.ClosedRegion region) (inside : ∀ upper ∈ host.interfaces start, upper ∈ region)
    {bound : Nat} (enough : region.card < bound) :
    (host.interfaceLattice bound start includeSelf).Offers visits := by
  have follows := host.interfaceLattice_follows bound start includeSelf
  rw [lattice.trace_eq closed inside enough] at follows
  exact follows.offers rfl

theorem exists_lattice_offers (finite : {h | host.AncestorInterface start h}.Finite) {bound : Nat}
    (enough : {h | host.AncestorInterface start h}.ncard < bound) (includeSelf : Bool) :
    ∃ visits, host.Lattice start includeSelf visits ∧
      (host.interfaceLattice bound start includeSelf).Offers visits := by
  obtain ⟨region, size, closed, inside⟩ := exists_region_above finite
  obtain ⟨visits, lattice⟩ := exists_lattice closed inside includeSelf
  rw [← size] at enough
  exact ⟨visits, lattice, lattice.offers closed inside enough⟩

/-- A lattice walk that its visitor does not stop is completed, and visits all that lies above the
    start, and the start itself where it is asked for and an interface, once each. -/
theorem interfaceLattice_visits_ancestors (host : Host H) (start : H) (includeSelf : Bool)
    (finite : {h | host.AncestorInterface start h}.Finite) :
    ∃ visits : List H, visits.Nodup ∧
      (host.isRoot start = true → visits = []) ∧
      (host.isRoot start = false → ∀ h, h ∈ visits ↔ host.AncestorInterface start h ∨
        (includeSelf = true ∧ host.isInterface start = true ∧ h = start)) ∧
      ∀ bound, {h | host.AncestorInterface start h}.ncard < bound →
        ∀ {σ : Type} (visit : Visitor σ H), visit.NeverStops → ∀ s,
          (host.interfaceLattice bound start includeSelf).run visit s =
            (visits.foldl visit.next s, .completed) := by
  obtain ⟨region, size, closed, inside⟩ := exists_region_above finite
  obtain ⟨visits, lattice⟩ := exists_lattice closed inside includeSelf
  refine ⟨visits, lattice.nodup, lattice.eq_nil_of_root, fun below h => lattice.mem_iff below, ?_⟩
  intro bound enough σ visit goesOn s
  rw [← size] at enough
  exact (lattice.offers closed inside enough).run_of_neverStops goesOn s

/-- Interfaces with a diamond, a loop, a cycle through the start, a repeated entry and an entry that
    is no interface. -/
def tangle : Host (Fin 5) where
  isInterface h := h ≠ 4
  superclass _ := none
  interfaces h :=
    match h with
    | 0 => [1, 2, 1]
    | 1 => [3, 1]
    | 2 => [3, 4]
    | 3 => [0]
    | 4 => [4]
  enclosing _ := none
  arity _ := 0
  arrayHandle h := h

theorem interfaceLattice_visits_tangle :
    {h | tangle.AncestorInterface 0 h}.Finite ∧
      ∃ visits : List (Fin 5), visits.Nodup ∧
        (∀ h, h ∈ visits ↔ tangle.AncestorInterface 0 h ∨ h = 0) ∧
        ∀ bound, {h | tangle.AncestorInterface 0 h}.ncard < bound →
          ∀ {σ : Type} (visit : Visitor σ (Fin 5)), visit.NeverStops → ∀ s,
            (tangle.interfaceLattice bound 0 true).run visit s =
              (visits.foldl visit.next s, .completed) := by
  have finite : {h | tangle.AncestorInterface 0 h}.Finite := Set.toFinite _
  obtain ⟨visits, nodup, -, visited, runs⟩ :=
    interfaceLattice_visits_ancestors tangle 0 true finite
  have below : tangle.isRoot 0 = false := by decide
  have interface : tangle.isInterface 0 = true := by decide
  refine ⟨finite, visits, nodup, fun h => ?_, runs⟩
  simpa [interface] using visited below h

example : (tangle.interfaceLattice 6 0 true).toList = [0, 1, 3, 2, 4] := by decide

end GenericTypes.Host
