import GenericTypes.Proofs.Hierarchy.Traces

namespace GenericTypes.Host

variable {H : Type} {host : Host H} {first : Option H} {start h : H} {classes : List H}

def DirectSuperclass (host : Host H) (lower upper : H) : Prop := host.superclass lower = some upper

theorem isProperClass_iff :
    host.isProperClass h = true ↔ host.isInterface h = false ∧ host.isRoot h = false := by
  simp [isProperClass]

/-- The proper classes that superclasses lead through, the first one included. -/
inductive Chain (host : Host H) : Option H → List H → Prop where
  | unextended : host.Chain none []
  | apex {h : H} (stops : host.isProperClass h = false) : host.Chain (some h) []
  | proper {h : H} {above : List H} (climbs : host.isProperClass h = true)
      (rest : host.Chain (host.superclass h) above) : host.Chain (some h) (h :: above)

theorem Chain.proper_of_mem (chain : host.Chain first classes) (member : h ∈ classes) :
    host.isProperClass h = true := by
  induction chain with
  | unextended => cases member
  | apex _ => cases member
  | proper climbs _ ih =>
    rcases List.mem_cons.mp member with rfl | member
    · exact climbs
    · exact ih member

theorem Chain.start_mem (chain : host.Chain (some start) classes)
    (proper : host.isProperClass start = true) : start ∈ classes := by
  cases chain with
  | apex stops => simp [proper] at stops
  | proper _ _ => simp

theorem Chain.eq_start_append (chain : host.Chain (some start) classes) :
    classes = (if host.isProperClass start then [start] else []) ++ classes.tail := by
  cases chain with
  | apex stops => simp [stops]
  | proper climbs _ => simp [climbs]

theorem Chain.exists_path (chain : host.Chain first classes) (member : h ∈ classes) :
    ∃ start, first = some start ∧ Relation.ReflTransGen host.DirectSuperclass start h := by
  induction chain with
  | unextended => cases member
  | apex _ => cases member
  | @proper lower above climbs _ ih =>
    rcases List.mem_cons.mp member with rfl | member
    · exact ⟨h, rfl, .refl⟩
    · obtain ⟨upper, extended, path⟩ := ih member
      exact ⟨lower, rfl, .head extended path⟩

theorem Chain.mem_iff_path (chain : host.Chain (some start) classes)
    (unextended : ∀ h, host.isProperClass h = false → host.superclass h = none) :
    h ∈ classes ↔
      host.isProperClass h = true ∧ Relation.ReflTransGen host.DirectSuperclass start h := by
  constructor
  · intro member
    obtain ⟨_, ⟨⟩, path⟩ := chain.exists_path member
    exact ⟨chain.proper_of_mem member, path⟩
  · rintro ⟨proper, path⟩
    induction path using Relation.ReflTransGen.head_induction_on generalizing classes with
    | refl => exact chain.start_mem proper
    | @head lower upper extended _ ih =>
      have written : host.superclass lower = some upper := extended
      cases chain with
      | apex stops => simp [unextended lower stops] at written
      | proper _ rest =>
        rw [written] at rest
        exact List.mem_cons_of_mem _ (ih rest)

theorem Chain.climbTrace_eq (chain : host.Chain first classes) {steps : Nat}
    (enough : classes.length < steps) : host.climbTrace steps first = ⟨classes, .completed⟩ := by
  induction chain generalizing steps with
  | unextended => cases steps <;> rfl
  | apex stops =>
    obtain _ | steps := steps
    · simp at enough
    · simp [climbTrace, stops, Trace.nothing]
  | proper climbs _ ih =>
    obtain _ | steps := steps
    · simp at enough
    · have above := ih (Nat.lt_of_succ_lt_succ enough)
      simp [climbTrace, climbs, above, Trace.cons]

theorem Chain.superclassChain_offers (chain : host.Chain (some start) classes) {bound : Nat}
    (enough : classes.length < bound) (includeSelf : Bool) :
    (host.superclassChain bound start includeSelf).Offers
      (if includeSelf then classes else classes.tail) := by
  have trace : host.chainTrace bound start includeSelf =
      ⟨if includeSelf then classes else classes.tail, .completed⟩ := by
    cases includeSelf with
    | true => exact chain.climbTrace_eq enough
    | false =>
      cases chain with
      | apex stops => simp [chainTrace, stops, climbTrace, Trace.nothing]
      | proper climbs rest =>
        simpa [chainTrace, climbs] using rest.climbTrace_eq (Nat.lt_of_succ_lt enough)
  have follows := host.superclassChain_follows bound start includeSelf
  rw [trace] at follows
  exact follows.offers rfl

end GenericTypes.Host
