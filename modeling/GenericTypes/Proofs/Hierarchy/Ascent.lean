import GenericTypes.Hierarchy.Lattice
import GenericTypes.Proofs.Walk.Offering
import Mathlib.Data.Set.Card
import Mathlib.Logic.Relation

namespace GenericTypes.Host

variable {H σ : Type} {host : Host H} {seen siblings visits : List H} {h start upper : H}

def DirectInterface (host : Host H) (lower upper : H) : Prop := upper ∈ host.interfaces lower

def AncestorInterface (host : Host H) : H → H → Prop := Relation.TransGen host.DirectInterface

/-- Past the handles already seen, the latest first, an ascent over the siblings and over all that
    lies above each of them visits these handles in this order. -/
inductive Ascent (host : Host H) : (seen siblings visits : List H) → Prop where
  | done {seen : List H} : host.Ascent seen [] []
  | pass {seen rest visits : List H} {h : H} (known : h ∈ seen)
      (onward : host.Ascent seen rest visits) : host.Ascent seen (h :: rest) visits
  | visit {seen rest above after : List H} {h : H} (fresh : h ∉ seen)
      (upward : host.Ascent (h :: seen) (host.interfaces h) above)
      (onward : host.Ascent (above.reverse ++ h :: seen) rest after) :
      host.Ascent seen (h :: rest) (h :: (above ++ after))

theorem Ascent.not_mem_seen (ascent : host.Ascent seen siblings visits) (visited : h ∈ visits) :
    h ∉ seen := by
  induction ascent with
  | done => cases visited
  | pass _ _ ih => exact ih visited
  | visit fresh _ _ ihUpward ihOnward =>
    simp only [List.mem_cons, List.mem_append] at visited
    rcases visited with rfl | visited | visited
    · exact fresh
    · exact fun known => ihUpward visited (List.mem_cons_of_mem _ known)
    · exact fun known => ihOnward visited (by simp [known])

theorem Ascent.nodup (ascent : host.Ascent seen siblings visits) : visits.Nodup := by
  induction ascent with
  | done => exact List.nodup_nil
  | pass _ _ ih => exact ih
  | visit fresh upward onward ihUpward ihOnward =>
    refine List.nodup_cons.mpr ⟨?_, List.nodup_append.mpr ⟨ihUpward, ihOnward, ?_⟩⟩
    · intro again
      rcases List.mem_append.mp again with again | again
      · exact upward.not_mem_seen again (by simp)
      · exact onward.not_mem_seen again (by simp)
    · rintro upper inAbove _ inAfter rfl
      exact onward.not_mem_seen inAfter (by simp [inAbove])

theorem mem_seen_or_visits {above after : List H} {self : H}
    (recorded : h ∈ above.reverse ++ self :: seen ∨ h ∈ after) :
    h ∈ seen ∨ h ∈ self :: (above ++ after) := by
  simp only [List.mem_append, List.mem_reverse, List.mem_cons] at recorded ⊢
  rcases recorded with (inAbove | rfl | known) | inAfter
  · exact .inr (.inr (.inl inAbove))
  · exact .inr (.inl rfl)
  · exact .inl known
  · exact .inr (.inr (.inr inAfter))

theorem Ascent.covers (ascent : host.Ascent seen siblings visits) (sibling : h ∈ siblings) :
    h ∈ seen ∨ h ∈ visits := by
  induction ascent with
  | done => cases sibling
  | pass known _ ih =>
    rcases List.mem_cons.mp sibling with rfl | sibling
    · exact .inl known
    · exact ih sibling
  | visit _ _ _ _ ihOnward =>
    rcases List.mem_cons.mp sibling with rfl | sibling
    · exact .inr (by simp)
    · exact mem_seen_or_visits (ihOnward sibling)

/-- At the end only handles that were seen before may be open: all that lies above a visited handle
    has been seen or visited. -/
theorem Ascent.closed (ascent : host.Ascent seen siblings visits) (visited : h ∈ visits)
    (above : upper ∈ host.interfaces h) : upper ∈ seen ∨ upper ∈ visits := by
  induction ascent with
  | done => cases visited
  | pass _ _ ih => exact ih visited
  | @visit seen rest aboveSelf after self fresh upward onward ihUpward ihOnward =>
    -- The handle is open while its own ascent runs, which closes it by covering its interfaces.
    have ofUpward : upper ∈ self :: seen ∨ upper ∈ aboveSelf →
        upper ∈ seen ∨ upper ∈ self :: (aboveSelf ++ after) := by
      intro recorded
      rcases recorded with known | inAbove
      · exact mem_seen_or_visits (.inl (List.mem_append_right _ known))
      · exact mem_seen_or_visits (.inl (List.mem_append_left _ (List.mem_reverse.mpr inAbove)))
    simp only [List.mem_cons, List.mem_append] at visited
    rcases visited with rfl | visited | visited
    · exact ofUpward (upward.covers above)
    · exact ofUpward (ihUpward visited)
    · exact mem_seen_or_visits (ihOnward visited)

theorem Ascent.reached (ascent : host.Ascent seen siblings visits) (visited : h ∈ visits) :
    ∃ sibling ∈ siblings, Relation.ReflTransGen host.DirectInterface sibling h := by
  induction ascent with
  | done => cases visited
  | pass _ _ ih =>
    obtain ⟨sibling, member, path⟩ := ih visited
    exact ⟨sibling, List.mem_cons_of_mem _ member, path⟩
  | @visit seen rest aboveSelf after self fresh _ _ ihUpward ihOnward =>
    simp only [List.mem_cons, List.mem_append] at visited
    rcases visited with rfl | visited | visited
    · exact ⟨h, by simp, .refl⟩
    · obtain ⟨sibling, member, path⟩ := ihUpward visited
      exact ⟨self, by simp, .head member path⟩
    · obtain ⟨sibling, member, path⟩ := ihOnward visited
      exact ⟨sibling, List.mem_cons_of_mem _ member, path⟩

def ClosedRegion (host : Host H) (region : Finset H) : Prop :=
  ∀ h ∈ region, ∀ upper ∈ host.interfaces h, upper ∈ region

variable {region : Finset H}

theorem ClosedRegion.mem_of_path (closed : host.ClosedRegion region) {lower upper : H}
    (inside : lower ∈ region) (path : Relation.ReflTransGen host.DirectInterface lower upper) :
    upper ∈ region := by
  induction path with
  | refl => exact inside
  | tail _ step ih => exact closed _ ih _ step

/-- Where finitely many handles lie above some starts, these are a closed region. -/
theorem exists_region (starts : List H) {above : Set H} (finite : above.Finite)
    (spans : ∀ h, h ∈ above ↔ ∃ c ∈ starts, host.AncestorInterface c h) :
    ∃ region : Finset H, region.card = above.ncard ∧ host.ClosedRegion region ∧
      ∀ c ∈ starts, ∀ upper ∈ host.interfaces c, upper ∈ region := by
  refine ⟨finite.toFinset, (Set.ncard_eq_toFinset_card above finite).symm, ?_, ?_⟩
  · intro h member upper direct
    rw [Set.Finite.mem_toFinset, spans] at member ⊢
    obtain ⟨c, isStart, ancestor⟩ := member
    exact ⟨c, isStart, .tail ancestor direct⟩
  · intro c isStart upper direct
    rw [Set.Finite.mem_toFinset, spans]
    exact ⟨c, isStart, .single direct⟩

theorem exists_region_above (finite : {h | host.AncestorInterface start h}.Finite) :
    ∃ region : Finset H, region.card = {h | host.AncestorInterface start h}.ncard ∧
      host.ClosedRegion region ∧ ∀ upper ∈ host.interfaces start, upper ∈ region := by
  obtain ⟨region, size, closed, inside⟩ := host.exists_region [start] finite (by simp)
  exact ⟨region, size, closed, inside start (by simp)⟩

theorem Ascent.length_le (ascent : host.Ascent seen siblings visits)
    (closed : host.ClosedRegion region) (inside : ∀ sibling ∈ siblings, sibling ∈ region) :
    visits.length ≤ region.card := by
  classical
  rw [← List.toFinset_card_of_nodup ascent.nodup]
  apply Finset.card_le_card
  intro h visited
  obtain ⟨sibling, member, path⟩ := ascent.reached (List.mem_toFinset.mp visited)
  exact closed.mem_of_path (inside sibling member) path

theorem card_sdiff_lt [DecidableEq H] {grown : List H} (inside : h ∈ region) (fresh : h ∉ seen)
    (recorded : h ∈ grown) (kept : ∀ other ∈ seen, other ∈ grown) :
    (region \ grown.toFinset).card < (region \ seen.toFinset).card := by
  apply Finset.card_lt_card
  have shrinks : region \ grown.toFinset ⊆ region \ seen.toFinset := by
    intro other left
    simp only [Finset.mem_sdiff, List.mem_toFinset] at left ⊢
    exact ⟨left.1, fun known => left.2 (kept other known)⟩
  rw [Finset.ssubset_iff_of_subset shrinks]
  exact ⟨h, by simp [inside, fresh], by simp [recorded]⟩

theorem exists_ascent [DecidableEq H] (closed : host.ClosedRegion region) :
    ∀ seen siblings : List H, (∀ sibling ∈ siblings, sibling ∈ region) →
      ∃ visits, host.Ascent seen siblings visits
  | _, [], _ => ⟨[], .done⟩
  | seen, h :: rest, inside => by
    have insideRest : ∀ sibling ∈ rest, sibling ∈ region :=
      fun sibling member => inside sibling (List.mem_cons_of_mem _ member)
    by_cases known : h ∈ seen
    · obtain ⟨visits, onward⟩ := exists_ascent closed seen rest insideRest
      exact ⟨visits, .pass known onward⟩
    · have insideSelf : h ∈ region := inside h (by simp)
      obtain ⟨above, upward⟩ :=
        exists_ascent closed (h :: seen) (host.interfaces h) (closed h insideSelf)
      obtain ⟨after, onward⟩ :=
        exists_ascent closed (above.reverse ++ h :: seen) rest insideRest
      exact ⟨h :: (above ++ after), .visit known upward onward⟩
termination_by seen siblings => ((region \ seen.toFinset).card, siblings.length)
decreasing_by
  · exact Prod.Lex.right _ (by simp)
  -- Each visit leaves fewer handles of the region to be visited.
  · exact Prod.Lex.left _ _ (card_sdiff_lt insideSelf known (by simp) (by simp +contextual))
  · exact Prod.Lex.left _ _ (card_sdiff_lt insideSelf known (by simp) (by simp +contextual))

variable [DecidableEq H]

def ascendTo (host : Host H) (visit : Visitor σ H) (depth : Nat) :
    σ × Visited H → H → (σ × Visited H) × Outcome :=
  fun (s, seen) h =>
    match seen.record h with
    | (false, seen) => ((s, seen), .completed)
    | (true, seen) =>
      Outcome.andThen (Outcome.offer (beside visit) (s, seen) h) fun state =>
        host.visitAbove visit depth state h

theorem visitAbove_succ (visit : Visitor σ H) (depth : Nat) (state : σ × Visited H) (h : H) :
    host.visitAbove visit (depth + 1) state h =
      Outcome.forEach (host.ascendTo visit depth) (host.interfaces h) state := rfl

def offerNew (visit : Visitor σ H) : σ × Visited H → H → (σ × Visited H) × Outcome :=
  fun (s, seen) h => Outcome.offer (beside visit) (s, (seen.record h).2) h

theorem ascendTo_known (visit : Visitor σ H) (depth : Nat) (s : σ) (known : h ∈ seen) :
    host.ascendTo visit depth (s, ⟨seen⟩) h = ((s, ⟨seen⟩), .completed) := by
  simp [ascendTo, Visited.record, known]

theorem ascendTo_fresh (visit : Visitor σ H) (depth : Nat) (s : σ) (fresh : h ∉ seen) :
    host.ascendTo visit depth (s, ⟨seen⟩) h =
      Outcome.andThen (offerNew visit (s, ⟨seen⟩) h) fun state =>
        host.visitAbove visit depth state h := by
  simp [ascendTo, offerNew, Visited.record, fresh]

theorem offerNew_completed {visit : Visitor σ H} {s : σ} {state : σ × Visited H} (fresh : h ∉ seen)
    (completed : offerNew visit (s, ⟨seen⟩) h = (state, .completed)) :
    state = (visit.next s h, ⟨h :: seen⟩) := by
  simp only [offerNew, Visited.record, fresh, ↓reduceIte, Outcome.offer, beside] at completed
  cases answer : visit s h with
  | mk next flow =>
    rw [answer] at completed
    cases flow with
    | stop => simp at completed
    | proceed => simp_all [Visitor.next]

theorem forEach_offerNew_completed {visit : Visitor σ H} {s : σ} {state : σ × Visited H}
    (distinct : visits.Nodup) (fresh : ∀ h ∈ visits, h ∉ seen)
    (completed : Outcome.forEach (offerNew visit) visits (s, ⟨seen⟩) = (state, .completed)) :
    state.2 = ⟨visits.reverse ++ seen⟩ := by
  induction visits generalizing s seen with
  | nil =>
    cases completed
    rfl
  | cons h rest ih =>
    obtain ⟨unrepeated, distinct⟩ := List.nodup_cons.mp distinct
    rw [Outcome.forEach] at completed
    cases offered : offerNew visit (s, ⟨seen⟩) h with
    | mk after outcome =>
      rw [offered] at completed
      cases outcome with
      | stopped => simp [Outcome.andThen] at completed
      | unfinished => simp [Outcome.andThen] at completed
      | completed =>
        obtain rfl := offerNew_completed (fresh h (by simp)) offered
        have freshRest : ∀ other ∈ rest, other ∉ h :: seen := by
          intro other member known
          rcases List.mem_cons.mp known with rfl | known
          · exact unrepeated member
          · exact fresh other (by simp [member]) known
        have recorded := ih distinct freshRest completed
        simpa using recorded

theorem forEach_offerNew_fst (visit : Visitor σ H) (sequence : List H) (s : σ) (seen : Visited H) :
    ((Outcome.forEach (offerNew visit) sequence (s, seen)).1.1,
      (Outcome.forEach (offerNew visit) sequence (s, seen)).2) =
      Outcome.forEach (Outcome.offer visit) sequence s := by
  induction sequence generalizing s seen with
  | nil => rfl
  | cons h rest ih =>
    simp only [Outcome.forEach, offerNew, Outcome.offer, beside]
    cases visit s h with
    | mk next flow =>
      cases flow with
      | stop => rfl
      | proceed => exact ih next _

end GenericTypes.Host
