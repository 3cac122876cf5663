import GenericTypes.Proofs.Hierarchy.Traces
import GenericTypes.Proofs.Walk.Distinct

namespace GenericTypes.Host

variable {H : Type} {host : Host H} {seen siblings : List H} {h start upper : H} {bound depth : Nat}

def expandEach (expandAbove : H → Trace H) : List H → Trace H
  | [] => .nothing
  | h :: rest => ((expandAbove h).andThen (expandEach expandAbove rest)).cons h

/-- In pre-order all that lies above a handle, at most `depth` levels deep. -/
def expandAbove (host : Host H) : (depth : Nat) → H → Trace H
  | 0, _ => ⟨[], .unfinished⟩
  | depth + 1, h => expandEach (host.expandAbove depth) (host.interfaces h)

def expansion (host : Host H) (bound : Nat) (start : H) (includeSelf : Bool) : Trace H :=
  if includeSelf && host.isInterface start then (host.expandAbove bound start).cons start
  else host.expandAbove bound start

def AcyclicFrom (host : Host H) (start : H) : Prop :=
  ∀ h, Relation.ReflTransGen host.DirectInterface start h → ¬ host.AncestorInterface h h

theorem AcyclicFrom.of_direct (acyclic : host.AcyclicFrom h)
    (direct : host.DirectInterface h upper) : host.AcyclicFrom upper :=
  fun other path => acyclic other (.head direct path)

theorem AcyclicFrom.ne_of_ancestor (acyclic : host.AcyclicFrom start)
    (ancestor : host.AncestorInterface start h) : h ≠ start := by
  rintro rfl
  exact acyclic h .refl ancestor

theorem mem_expandEach {expand : H → Trace H}
    (member : upper ∈ (expandEach expand siblings).sequence) :
    ∃ sibling ∈ siblings, upper = sibling ∨ upper ∈ (expand sibling).sequence := by
  induction siblings with
  | nil => simp [expandEach, Trace.nothing] at member
  | cons h rest ih =>
    have ofRest : upper ∈ (expandEach expand rest).sequence →
        ∃ sibling ∈ h :: rest, upper = sibling ∨ upper ∈ (expand sibling).sequence := by
      intro member
      obtain ⟨sibling, inside, found⟩ := ih member
      exact ⟨sibling, List.mem_cons_of_mem _ inside, found⟩
    rcases List.mem_cons.mp member with rfl | member
    · exact ⟨upper, by simp, .inl rfl⟩
    · rcases Trace.mem_andThen member with above | after
      · exact ⟨h, by simp, .inr above⟩
      · exact ofRest after

theorem ancestor_of_mem_expandAbove (member : upper ∈ (host.expandAbove depth h).sequence) :
    host.AncestorInterface h upper := by
  induction depth generalizing h with
  | zero => simp [expandAbove] at member
  | succ depth ih =>
    obtain ⟨sibling, direct, found⟩ := mem_expandEach member
    rcases found with rfl | above
    · exact .single direct
    · exact .head direct (ih above)

theorem expandEach_unfinished {expand : H → Trace H}
    (ended : (expandEach expand siblings).ending ≠ .completed) :
    ∃ sibling ∈ siblings, (expand sibling).ending ≠ .completed ∧
      sibling :: (expand sibling).sequence ⊆ (expandEach expand siblings).sequence := by
  induction siblings with
  | nil => simp [expandEach, Trace.nothing] at ended
  | cons h rest ih =>
    simp only [expandEach, Trace.cons] at ended ⊢
    by_cases completed : (expand h).ending = .completed
    · rw [Trace.andThen_of_completed completed] at ended ⊢
      obtain ⟨sibling, member, endedAbove, inside⟩ := ih ended
      refine ⟨sibling, List.mem_cons_of_mem _ member, endedAbove, fun upper visited => ?_⟩
      exact List.mem_cons_of_mem _ (List.mem_append_right _ (inside visited))
    · rw [Trace.andThen_of_ne_completed completed]
      exact ⟨h, by simp, completed, List.Subset.refl _⟩

theorem exists_path_of_unfinished (acyclic : host.AcyclicFrom h)
    (ended : (host.expandAbove depth h).ending ≠ .completed) :
    ∃ path : List H, path.length = depth ∧ path.Nodup ∧
      path ⊆ (host.expandAbove depth h).sequence := by
  induction depth generalizing h with
  | zero => exact ⟨[], rfl, List.nodup_nil, List.nil_subset _⟩
  | succ depth ih =>
    obtain ⟨sibling, direct, endedAbove, inside⟩ := expandEach_unfinished ended
    have acyclic := acyclic.of_direct direct
    obtain ⟨path, length, distinct, insidePath⟩ := ih acyclic endedAbove
    have unrepeated : sibling ∉ path := by
      intro again
      exact acyclic.ne_of_ancestor (ancestor_of_mem_expandAbove (insidePath again)) rfl
    refine ⟨sibling :: path, by simp [length], List.nodup_cons.mpr ⟨unrepeated, distinct⟩, ?_⟩
    refine fun upper member => inside ?_
    rcases List.mem_cons.mp member with rfl | member
    · exact List.mem_cons_self
    · exact List.mem_cons_of_mem _ (insidePath member)

theorem expandAbove_completed (acyclic : host.AcyclicFrom start)
    (finite : {h | host.AncestorInterface start h}.Finite)
    (enough : {h | host.AncestorInterface start h}.ncard < bound) :
    (host.expandAbove bound start).ending = .completed := by
  classical
  by_contra ended
  obtain ⟨path, length, distinct, inside⟩ := exists_path_of_unfinished acyclic ended
  have covered : path.toFinset ⊆ finite.toFinset := by
    intro upper member
    rw [Set.Finite.mem_toFinset]
    exact ancestor_of_mem_expandAbove (inside (List.mem_toFinset.mp member))
  have short := Finset.card_le_card covered
  rw [List.toFinset_card_of_nodup distinct, length, ← Set.ncard_eq_toFinset_card _ finite] at short
  omega

/-- Whatever of the seen handles lies above a handle has all its interfaces among them: none of it
    is still open. -/
def Settled (host : Host H) (seen : List H) (h : H) : Prop :=
  ∀ other ∈ seen, Relation.ReflTransGen host.DirectInterface h other →
    ∀ upper ∈ host.interfaces other, upper ∈ seen

theorem Settled.mem_of_ancestor (settled : host.Settled seen h) (known : h ∈ seen)
    (ancestor : host.AncestorInterface h upper) : upper ∈ seen := by
  induction ancestor with
  | single direct => exact settled h known .refl _ direct
  | tail path direct ih => exact settled _ ih path.to_reflTransGen _ direct

theorem Settled.record (settled : host.Settled seen h) (acyclic : host.AcyclicFrom h)
    (direct : host.DirectInterface h upper) : host.Settled (h :: seen) upper := by
  intro other known path higher above
  rcases List.mem_cons.mp known with rfl | known
  · exact absurd rfl (acyclic.ne_of_ancestor (.head' direct path))
  · exact List.mem_cons_of_mem _ (settled other known (.head direct path) higher above)

theorem Ascent.settled {above : List H} {sibling : H}
    (ascent : host.Ascent (h :: seen) (host.interfaces h) above)
    (settled : host.Settled seen sibling) :
    host.Settled (above.reverse ++ h :: seen) sibling := by
  have recorded {other : H} (covered : other ∈ h :: seen ∨ other ∈ above) :
      other ∈ above.reverse ++ h :: seen := by
    rw [List.mem_append, List.mem_reverse]
    exact covered.symm
  intro other known path upper direct
  rw [List.mem_append, List.mem_reverse] at known
  rcases known with visited | known
  · exact recorded (ascent.closed visited direct)
  · rcases List.mem_cons.mp known with rfl | known
    · exact recorded (ascent.covers direct)
    · exact recorded (.inl (List.mem_cons_of_mem _ (settled other known path upper direct)))

variable [DecidableEq H]

theorem expandEach_extendedBy
    (above : ∀ seen h, host.AcyclicFrom h → (∀ upper, host.DirectInterface h upper →
      host.Settled seen upper) →
      ((host.expandAbove depth h).distinctAfter seen).ExtendedBy (host.traceAbove depth seen h))
    (acyclic : ∀ sibling ∈ siblings, host.AcyclicFrom sibling)
    (settled : ∀ sibling ∈ siblings, host.Settled seen sibling) :
    ((expandEach (host.expandAbove depth) siblings).distinctAfter seen).ExtendedBy
      (traceEach (host.traceAbove depth) seen siblings) := by
  induction siblings generalizing seen with
  | nil => exact .refl _
  | cons h rest ih =>
    have acyclicRest : ∀ sibling ∈ rest, host.AcyclicFrom sibling :=
      fun sibling member => acyclic sibling (List.mem_cons_of_mem _ member)
    have settledRest : ∀ sibling ∈ rest, host.Settled seen sibling :=
      fun sibling member => settled sibling (List.mem_cons_of_mem _ member)
    have acyclicSelf := acyclic h (by simp)
    have settledSelf := settled h (by simp)
    rw [expandEach]
    by_cases known : h ∈ seen
    · -- A known handle is settled, so the expansion finds nothing new above it.
      have nothingNew : (host.expandAbove depth h).distinctAfter seen =
          ⟨[], (host.expandAbove depth h).ending⟩ := by
        apply Trace.distinctAfter_of_subset
        exact fun upper member =>
          settledSelf.mem_of_ancestor known (ancestor_of_mem_expandAbove member)
      rw [Trace.distinctAfter_cons_known known, Trace.distinctAfter_andThen, nothingNew,
        traceEach_known known]
      cases (host.expandAbove depth h).ending with
      | completed => exact ih acyclicRest settledRest
      | stopped => exact .of_unfinished rfl (by simp [Trace.andThen]) _
      | unfinished => exact .of_unfinished rfl (by simp [Trace.andThen]) _
    · have extended := above (h :: seen) h acyclicSelf
        fun upper direct => settledSelf.record acyclicSelf direct
      rw [Trace.distinctAfter_cons_fresh known, Trace.distinctAfter_andThen, traceEach_fresh known]
      refine (extended.andThen fun completed => ?_).cons h
      have same := extended.completed completed
      have ascent := traceAbove_ascent ((congrArg Trace.ending same).trans completed)
      rw [← same]
      exact ih acyclicRest fun sibling member => ascent.settled (settledRest sibling member)

theorem expandAbove_extendedBy (acyclic : host.AcyclicFrom h)
    (settled : ∀ upper, host.DirectInterface h upper → host.Settled seen upper) :
    ((host.expandAbove depth h).distinctAfter seen).ExtendedBy (host.traceAbove depth seen h) := by
  induction depth generalizing seen h with
  | zero => exact .of_unfinished rfl (by simp [expandAbove, Trace.distinctAfter]) _
  | succ depth ih =>
    exact expandEach_extendedBy (fun _ _ => ih) (fun _ direct => acyclic.of_direct direct) settled

theorem expansion_extendedBy (below : host.isRoot start = false) (acyclic : host.AcyclicFrom start)
    (bound : Nat) (includeSelf : Bool) :
    ((host.expansion bound start includeSelf).distinctAfter []).ExtendedBy
      (host.latticeTrace bound start includeSelf) := by
  have settledNothing : ∀ upper, host.Settled [] upper :=
    fun _ _ known => absurd known List.not_mem_nil
  simp only [expansion, latticeTrace, below, Bool.false_eq_true, ↓reduceIte]
  split
  · rw [Trace.distinctAfter_cons_fresh List.not_mem_nil]
    refine (expandAbove_extendedBy acyclic fun upper direct => ?_).cons start
    exact (settledNothing start).record acyclic direct
  · exact expandAbove_extendedBy acyclic fun upper _ => settledNothing upper

theorem bound_le_eraseDups_expansion (acyclic : host.AcyclicFrom start) {includeSelf : Bool}
    (ended : (host.expansion bound start includeSelf).ending ≠ .completed) :
    bound ≤ (host.expansion bound start includeSelf).sequence.eraseDups.length := by
  unfold expansion at ended ⊢
  split at ended <;> rename_i self
  · obtain ⟨path, length, distinct, inside⟩ := exists_path_of_unfinished acyclic ended
    have insideAll : path ⊆ start :: (host.expandAbove bound start).sequence :=
      fun upper member => List.mem_cons_of_mem _ (inside member)
    have long := Trace.length_le_eraseDups distinct insideAll
    simpa [self, length, Trace.cons] using long
  · obtain ⟨path, length, distinct, inside⟩ := exists_path_of_unfinished acyclic ended
    have long := Trace.length_le_eraseDups distinct inside
    simpa [self, length] using long

theorem eraseDups_expansion_self (acyclic : host.AcyclicFrom start) (bound : Nat) :
    (host.expansion bound start true).sequence.eraseDups =
      (if host.isInterface start then [start] else []) ++
        (host.expansion bound start false).sequence.eraseDups := by
  cases interface : host.isInterface start with
  | false => simp [expansion, interface]
  | true =>
    have others : (host.expandAbove bound start).sequence.filter (fun h => !h == start) =
        (host.expandAbove bound start).sequence := by
      refine List.filter_eq_self.mpr fun h member => ?_
      simpa using acyclic.ne_of_ancestor (ancestor_of_mem_expandAbove member)
    simp [expansion, interface, Trace.cons, List.eraseDups_cons, others]

/-- The lattice walk visits the first occurrences of the expansion, be they finite or not: where the
    expansion ends within the bound the walk has visited exactly those, and elsewhere each of the
    two sequences, given more steps, goes on where the other one had to break off. -/
structure KeepsFirstOccurrences (host : Host H) (start : H) (includeSelf : Bool) : Prop where
  ended : ∀ bound, (host.expansion bound start includeSelf).ending = .completed →
    (host.interfaceLattice bound start includeSelf).outcome = .completed ∧
      (host.interfaceLattice bound start includeSelf).toList =
        (host.expansion bound start includeSelf).sequence.eraseDups
  expanded : ∀ bound, (host.expansion bound start includeSelf).sequence.eraseDups <+:
    (host.interfaceLattice bound start includeSelf).toList
  visited : ∀ bound, ∃ more, (host.interfaceLattice bound start includeSelf).toList <+:
    (host.expansion more start includeSelf).sequence.eraseDups
  finite : {h | host.AncestorInterface start h}.Finite →
    ∀ bound, {h | host.AncestorInterface start h}.ncard < bound →
      (host.expansion bound start includeSelf).ending = .completed

theorem AcyclicFrom.keepsFirstOccurrences (acyclic : host.AcyclicFrom start)
    (below : host.isRoot start = false) (includeSelf : Bool) :
    host.KeepsFirstOccurrences start includeSelf := by
  have extended (bound : Nat) := expansion_extendedBy below acyclic bound includeSelf
  have follows (bound : Nat) := host.interfaceLattice_follows bound start includeSelf
  simp only [Trace.distinctAfter_nil] at extended
  refine ⟨fun bound ends => ?_, fun bound => ?_, fun bound => ?_, fun finite bound enough => ?_⟩
  · have same := (extended bound).completed ends
    rw [(follows bound).outcome_eq, (follows bound).toList_eq, same]
    exact ⟨ends, rfl⟩
  · rw [(follows bound).toList_eq]
    exact (extended bound).sequence
  · -- With this many steps the expansion has ended, or has at least as many first occurrences.
    let more := max bound (host.latticeTrace bound start includeSelf).sequence.length
    have longer : (host.latticeTrace bound start includeSelf).ExtendedBy
        (host.latticeTrace more start includeSelf) :=
      latticeTrace_extendedBy (Nat.le_max_left bound _) start includeSelf
    refine ⟨more, ?_⟩
    rw [(follows bound).toList_eq]
    by_cases ends : (host.expansion more start includeSelf).ending = .completed
    · rw [(extended more).completed ends] at longer
      exact longer.sequence
    · have long :=
        Nat.le_trans (Nat.le_max_right bound _) (bound_le_eraseDups_expansion acyclic ends)
      exact List.prefix_of_prefix_length_le longer.sequence (extended more).sequence long
  · have ends := expandAbove_completed acyclic finite enough
    unfold expansion
    split <;> exact ends

end GenericTypes.Host
