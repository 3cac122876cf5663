import GenericTypes.Proofs.Sink.Interleaving
import Mathlib.Data.List.Fold
import Mathlib.Data.List.MinMax

namespace GenericTypes

namespace Feeding

variable {α : Type} {feeding next : Feeding α}

def Alive (feeding : Feeding α) : Prop := ∀ party ∈ feeding.parties, party.alive = true

theorem start_alive (sink : Sink α) (walks : List (Walk α)) : (start sink walks).Alive := by
  intro party member
  obtain ⟨walk, -, rfl⟩ := List.mem_map.mp member
  rfl

theorem run_append (feeding : Feeding α) (turns more : List Turn) :
    feeding.run (turns ++ more) = (feeding.run turns).run more :=
  List.foldl_append

def Advances (feeding : Feeding α) (chosen : Nat → Prop) [DecidablePred chosen]
    (next : Feeding α) : Prop :=
  ∀ i : Nat, next.parties[i]? = feeding.parties[i]?.map fun party =>
    if chosen i then ⟨party.pending.tail, true⟩ else party

theorem Advances.alive {chosen : Nat → Prop} [DecidablePred chosen]
    (advances : feeding.Advances chosen next) (alive : feeding.Alive) : next.Alive := by
  intro party member
  obtain ⟨i, isAt⟩ := List.mem_iff_getElem?.mp member
  rw [advances i, Option.map_eq_some_iff] at isAt
  obtain ⟨old, isOld, rfl⟩ := isAt
  split
  · rfl
  · exact alive old (List.mem_of_getElem? isOld)

theorem Alive.take_push (alive : feeding.Alive) (i : Nat) :
    feeding.Advances (· = i) (feeding.take (.push i)) := by
  intro j
  cases found : feeding.parties[i]? with
  | none =>
    by_cases same : j = i
    · simp [take, same, found]
    · simp [take, same, found]
  | some party =>
    have isAlive := alive party (List.mem_of_getElem? found)
    have bound := (List.getElem?_eq_some_iff.mp found).1
    obtain ⟨pending, _⟩ := party
    obtain rfl : _ = true := isAlive
    by_cases same : j = i
    · subst same
      cases pending with
      | nil => simp [take, found]
      | cons a rest =>
        simp only [take, found, List.getElem?_set_self bound]
        rfl
    · cases pending <;> simp [take, found, same, Ne.symm same]

theorem Alive.run_round (alive : feeding.Alive) (count : Nat) :
    feeding.Advances (· < count) (feeding.run ((List.range count).map Turn.push)) := by
  induction count with
  | zero =>
    intro i
    simp [run]
  | succ count ih =>
    intro i
    have last := (ih.alive alive).take_push count i
    rw [ih i, Option.map_map] at last
    rw [List.range_succ, List.map_append, run_append]
    refine last.trans (Option.map_congr fun party _ => ?_)
    rcases Nat.lt_trichotomy i count with below | rfl | above
    · simp [below, Nat.ne_of_lt below, Nat.lt_succ_of_lt below]
    · simp
    · simp [Nat.ne_of_gt above, Nat.not_lt_of_gt above, Nat.not_lt_of_ge above]

theorem Alive.run_rounds (alive : feeding.Alive) (rounds : Nat) :
    (feeding.run (List.replicate rounds
      ((List.range feeding.parties.length).map Turn.push)).flatten).pendings =
      feeding.pendings.map (List.drop rounds) := by
  induction rounds generalizing feeding with
  | zero => exact (List.map_id feeding.pendings).symm
  | succ rounds ih =>
    have round := alive.run_round feeding.parties.length
    have advanced : (feeding.run ((List.range feeding.parties.length).map Turn.push)).parties =
        feeding.parties.map fun party => ⟨party.pending.tail, true⟩ := by
      apply List.ext_getElem?
      intro i
      rw [round i, List.getElem?_map]
      refine Option.map_congr fun party isAt => ?_
      rw [if_pos (List.getElem?_eq_some_iff.mp isAt).1]
    have more := ih (round.alive alive)
    rw [advanced, List.length_map] at more
    rw [List.replicate_succ, List.flatten_cons, run_append, more, pendings, pendings, advanced]
    simp [Function.comp_def]

theorem Alive.rotation_finishes (alive : feeding.Alive) :
    (feeding.run feeding.rotation).Finished := by
  intro pending member
  rw [rotation, alive.run_rounds] at member
  obtain ⟨whole, isWhole, rfl⟩ := List.mem_map.mp member
  obtain ⟨party, isParty, rfl⟩ := List.mem_map.mp isWhole
  rw [List.drop_eq_nil_iff, List.foldl_eq_foldr]
  exact List.le_max_of_le' 0 (List.mem_map_of_mem isParty) le_rfl

end Feeding

/-- All the walks fed at once: the sink gains every element of every walk, those of one walk in
    their order. -/
theorem Sink.feedAll_interleaves {α : Type} (sink : Sink α) (walks : List (Walk α)) :
    ∃ log : List (Nat × α), (sink.feedAll walks).toList = sink.toList ++ log.map Prod.snd ∧
      (∀ i walk, walks[i]? = some walk → pushedBy i log = walk.toList) ∧
      (sink.feedAll walks).size = sink.size + (walks.map fun walk => walk.toList.length).sum := by
  have leads := (Feeding.start sink walks).run_leads (Feeding.start sink walks).rotation
  have finished := (Feeding.start_alive sink walks).rotation_finishes
  exact ⟨_, leads.sink, leads.whole_of_finished finished⟩

end GenericTypes
