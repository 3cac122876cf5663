import GenericTypes.Proofs.Hierarchy.Traces
import GenericTypes.Sink
import Mathlib.Data.List.TakeWhile

namespace GenericTypes

variable {α : Type}

/-- Of the pushes, each with the number of its party, those of one party. -/
def pushedBy (i : Nat) (log : List (Nat × α)) : List α :=
  (log.filter (·.1 = i)).map Prod.snd

@[simp]
theorem pushedBy_nil (i : Nat) : pushedBy i ([] : List (Nat × α)) = [] := rfl

@[simp]
theorem pushedBy_append (i : Nat) (log more : List (Nat × α)) :
    pushedBy i (log ++ more) = pushedBy i log ++ pushedBy i more := by
  simp [pushedBy]

theorem pushedBy_singleton_self (i : Nat) (a : α) : pushedBy i [(i, a)] = [a] := by
  simp [pushedBy]

theorem pushedBy_singleton_of_ne {i j : Nat} (other : j ≠ i) (a : α) :
    pushedBy i [(j, a)] = [] := by
  simp [pushedBy, other]

theorem pushedBy_eq_nil_iff {i : Nat} {log : List (Nat × α)} :
    pushedBy i log = [] ↔ ∀ entry ∈ log, entry.1 ≠ i := by
  simp [pushedBy]

theorem exists_split_of_pushedBy_eq_cons {i : Nat} {log : List (Nat × α)} {a : α} {own : List α}
    (pushed : pushedBy i log = a :: own) :
    ∃ others rest, log = others ++ (i, a) :: rest ∧ (∀ entry ∈ others, entry.1 ≠ i) ∧
      pushedBy i rest = own := by
  obtain ⟨⟨j, b⟩, kept, filtered, rfl, rfl⟩ := List.map_eq_cons_iff.mp pushed
  obtain ⟨others, rest, rfl, foreign, isOwn, rfl⟩ := List.filter_eq_cons_iff.mp filtered
  obtain rfl : j = i := by simpa using isOwn
  exact ⟨others, rest, rfl, by simpa using foreign, rfl⟩

namespace Feeding

variable {before middle after : Feeding α} {log : List (Nat × α)}

def pendings (feeding : Feeding α) : List (List α) := feeding.parties.map Party.pending

def Finished (feeding : Feeding α) : Prop := ∀ pending ∈ feeding.pendings, pending = []

def pushOf (feeding : Feeding α) : Turn → List (Nat × α)
  | .push i =>
    match feeding.parties[i]? with
    | some ⟨a :: _, true⟩ => [(i, a)]
    | _ => []
  | .death _ => []

def history (feeding : Feeding α) : List Turn → List (Nat × α)
  | [] => []
  | turn :: turns => feeding.pushOf turn ++ (feeding.take turn).history turns

theorem push_cases (feeding : Feeding α) (i : Nat) :
    (∃ a rest, feeding.parties[i]? = some ⟨a :: rest, true⟩ ∧
      feeding.pushOf (.push i) = [(i, a)] ∧
      feeding.take (.push i) = ⟨feeding.sink.push a, feeding.parties.set i ⟨rest, true⟩⟩) ∨
    (feeding.pushOf (.push i) = [] ∧ feeding.take (.push i) = feeding) := by
  cases found : feeding.parties[i]? with
  | none => exact .inr (by simp [pushOf, take, found])
  | some party =>
    obtain ⟨pending, alive⟩ := party
    cases pending with
    | nil => exact .inr (by simp [pushOf, take, found])
    | cons a rest =>
      cases alive with
      | false => exact .inr (by simp [pushOf, take, found])
      | true => exact .inl ⟨a, rest, rfl, by simp [pushOf, found], by simp [take, found]⟩

/-- A turn takes the next element from one party to the sink, or it moves nothing. -/
theorem take_cases (feeding : Feeding α) (turn : Turn) :
    (∃ i a rest, feeding.pendings[i]? = some (a :: rest) ∧ feeding.pushOf turn = [(i, a)] ∧
      (feeding.take turn).sink = feeding.sink.push a ∧
      (feeding.take turn).pendings = feeding.pendings.set i rest) ∨
    (feeding.pushOf turn = [] ∧ (feeding.take turn).sink = feeding.sink ∧
      (feeding.take turn).pendings = feeding.pendings) := by
  cases turn with
  | death i =>
    refine .inr ⟨rfl, rfl, ?_⟩
    apply List.ext_getElem?
    intro j
    simp only [take, pendings, List.getElem?_map, List.getElem?_modify]
    cases feeding.parties[j]? with
    | none => rfl
    | some party => split <;> rfl
  | push i =>
    rcases feeding.push_cases i with ⟨a, rest, found, pushed, taken⟩ | ⟨pushed, taken⟩
    · rw [taken]
      refine .inl ⟨i, a, rest, ?_, pushed, rfl, ?_⟩
      · simp [pendings, found]
      · simp [pendings, List.map_set]
    · rw [taken]
      exact .inr ⟨pushed, rfl, rfl⟩

theorem sum_length_set {lists : List (List α)} {i : Nat} {a : α} {rest : List α}
    (found : lists[i]? = some (a :: rest)) :
    ((lists.set i rest).map List.length).sum + 1 = (lists.map List.length).sum := by
  induction lists generalizing i with
  | nil => cases found
  | cons head tail ih =>
    cases i with
    | zero =>
      obtain rfl : head = a :: rest := Option.some.inj found
      simp only [List.set_cons_zero, List.map_cons, List.sum_cons, List.length_cons]
      omega
    | succ i =>
      have fewer := ih found
      simp only [List.set_cons_succ, List.map_cons, List.sum_cons]
      omega

/-- The pushes of the log lead from one state of a feeding to another. -/
structure Leads (before : Feeding α) (log : List (Nat × α)) (after : Feeding α) : Prop where
  sink : after.sink.toList = before.sink.toList ++ log.map Prod.snd
  known : ∀ entry ∈ log, entry.1 < before.pendings.length
  party : ∀ i, before.pendings[i]? = after.pendings[i]?.map (pushedBy i log ++ ·)
  total : (after.pendings.map List.length).sum + log.length = (before.pendings.map List.length).sum

theorem Leads.refl (feeding : Feeding α) : feeding.Leads [] feeding := by
  refine ⟨by simp, nofun, fun i => ?_, rfl⟩
  simp

theorem Leads.length_pendings (leads : before.Leads log after) :
    before.pendings.length = after.pendings.length := by
  have same : ∀ i : Nat, before.pendings.length ≤ i ↔ after.pendings.length ≤ i := by
    intro i
    rw [← List.getElem?_eq_none_iff, leads.party i, Option.map_eq_none_iff,
      List.getElem?_eq_none_iff]
  exact Nat.le_antisymm ((same _).mpr le_rfl) ((same _).mp le_rfl)

theorem Leads.trans {first second : List (Nat × α)} (leads : before.Leads first middle)
    (later : middle.Leads second after) : before.Leads (first ++ second) after := by
  refine ⟨?_, fun entry member => ?_, fun i => ?_, ?_⟩
  · rw [later.sink, leads.sink, List.map_append, List.append_assoc]
  · rcases List.mem_append.mp member with isFirst | isSecond
    · exact leads.known entry isFirst
    · rw [leads.length_pendings]
      exact later.known entry isSecond
  · rw [leads.party, later.party, Option.map_map]
    congr 1
    funext pending
    simp
  · have moved := leads.total
    have movedLater := later.total
    rw [List.length_append]
    omega

theorem take_leads (feeding : Feeding α) (turn : Turn) :
    feeding.Leads (feeding.pushOf turn) (feeding.take turn) := by
  rcases feeding.take_cases turn with
    ⟨i, a, rest, found, pushed, sink, pendings⟩ | ⟨pushed, sink, pendings⟩
  · rw [pushed]
    refine ⟨by simp [sink], ?_, fun j => ?_, ?_⟩
    · intro entry member
      obtain rfl := List.mem_singleton.mp member
      exact (List.getElem?_eq_some_iff.mp found).1
    · rw [pendings, List.getElem?_set]
      by_cases same : i = j
      · subst same
        have bound := (List.getElem?_eq_some_iff.mp found).1
        rw [if_pos rfl, if_pos bound, found, pushedBy_singleton_self]
        rfl
      · simp [same, pushedBy_singleton_of_ne same]
    · rw [pendings]
      exact sum_length_set found
  · rw [pushed]
    have same := Leads.refl feeding
    exact ⟨by simp [sink], same.known, by simp [pendings], by simp [pendings]⟩

theorem run_leads (feeding : Feeding α) (turns : List Turn) :
    feeding.Leads (feeding.history turns) (feeding.run turns) := by
  induction turns generalizing feeding with
  | nil => exact .refl feeding
  | cons turn turns ih => exact (feeding.take_leads turn).trans (ih (feeding.take turn))

section Death

variable {feeding : Feeding α} {i : Nat}

def Dead (feeding : Feeding α) (i : Nat) : Prop :=
  ∀ party, feeding.parties[i]? = some party → party.alive = false

theorem dead_of_death (feeding : Feeding α) (i : Nat) : (feeding.take (.death i)).Dead i := by
  intro party isParty
  simp only [take, List.getElem?_modify, if_pos] at isParty
  obtain ⟨old, -, rfl⟩ := Option.map_eq_some_iff.mp isParty
  rfl

theorem Dead.take (dead : feeding.Dead i) (turn : Turn) :
    (feeding.take turn).Dead i ∧ pushedBy i (feeding.pushOf turn) = [] := by
  cases turn with
  | death j =>
    refine ⟨fun party isParty => ?_, rfl⟩
    simp only [Feeding.take, List.getElem?_modify] at isParty
    obtain ⟨old, isOld, rfl⟩ := Option.map_eq_some_iff.mp isParty
    split
    · rfl
    · exact dead old isOld
  | push j =>
    rcases feeding.push_cases j with ⟨a, rest, found, pushed, taken⟩ | ⟨pushed, taken⟩
    · have other : j ≠ i := by
        intro same
        subst same
        exact Bool.noConfusion (dead _ found)
      rw [pushed, taken]
      refine ⟨fun party isParty => ?_, pushedBy_singleton_of_ne other a⟩
      exact dead party (by rwa [List.getElem?_set_ne other] at isParty)
    · rw [pushed, taken]
      exact ⟨dead, rfl⟩

/-- Whatever the turns after its death, a party pushes nothing more. -/
theorem pushedBy_history_of_death (feeding : Feeding α) (i : Nat) (turns : List Turn) :
    pushedBy i ((feeding.take (.death i)).history turns) = [] := by
  have silent : ∀ {feeding : Feeding α}, feeding.Dead i →
      pushedBy i (feeding.history turns) = [] := by
    induction turns with
    | nil => exact fun _ => rfl
    | cons turn turns ih =>
      intro feeding dead
      obtain ⟨later, nothing⟩ := dead.take turn
      rw [history, pushedBy_append, nothing, ih later, List.nil_append]
  exact silent (feeding.dead_of_death i)

end Death

section Start

variable {sink : Sink α} {walks : List (Walk α)}

theorem start_pendings (sink : Sink α) (walks : List (Walk α)) :
    (start sink walks).pendings = walks.map Walk.toList := by
  simp [start, pendings]

theorem Leads.party_of_walk {i : Nat} {walk : Walk α} (leads : (start sink walks).Leads log after)
    (isWalk : walks[i]? = some walk) :
    ∃ pending, after.pendings[i]? = some pending ∧ pushedBy i log ++ pending = walk.toList := by
  have whole := leads.party i
  rwa [start_pendings, List.getElem?_map, isWalk, Option.map_some, eq_comm,
    Option.map_eq_some_iff] at whole

theorem Leads.whole_of_finished (leads : (start sink walks).Leads log after)
    (finished : after.Finished) :
    (∀ i walk, walks[i]? = some walk → pushedBy i log = walk.toList) ∧
      after.sink.size = sink.size + (walks.map fun walk => walk.toList.length).sum := by
  constructor
  · intro i walk isWalk
    obtain ⟨pending, isPending, whole⟩ := leads.party_of_walk isWalk
    rwa [finished pending (List.mem_of_getElem? isPending), List.append_nil] at whole
  · have nothing : (after.pendings.map List.length).sum = 0 := by
      apply List.sum_eq_zero
      intro length member
      obtain ⟨pending, isPending, rfl⟩ := List.mem_map.mp member
      rw [finished pending isPending, List.length_nil]
    have gained := congrArg List.length leads.sink
    have moved := leads.total
    rw [Sink.length_toList, List.length_append, Sink.length_toList, List.length_map] at gained
    rw [nothing, start_pendings, List.map_map, Nat.zero_add] at moved
    rw [gained, moved]
    rfl

end Start

end Feeding

namespace Sink

theorem toList_foldl_push (sink : Sink α) (items : List α) :
    (items.foldl push sink).toList = sink.toList ++ items := by
  induction items generalizing sink with
  | nil => simp
  | cons a rest ih =>
    rw [List.foldl_cons, ih, toList_push, List.append_assoc, List.singleton_append]

section Alone

variable {walk : Walk α} {trace : Trace α}

/-- Fed alone, a sink gains what the walk visits, and the walk ends as it does for any visitor that
    never stops. -/
theorem feed_eq (follows : walk.Follows trace) (sink : Sink α) :
    sink.feed walk = (walk.toList.foldl push sink, walk.outcome) := by
  have goesOn : Visitor.NeverStops (pushNext : Visitor (Sink α) α) := fun _ _ => rfl
  have pushes : Visitor.next (pushNext : Visitor (Sink α) α) = push := rfl
  unfold feed
  rw [follows.run_of_neverStops goesOn, pushes, follows.toList_eq, follows.outcome_eq]

theorem toList_feed (follows : walk.Follows trace) (sink : Sink α) :
    (sink.feed walk).1.toList = sink.toList ++ walk.toList := by
  rw [feed_eq follows]
  exact toList_foldl_push sink walk.toList

theorem toList_ofWalk (follows : walk.Follows trace) : (ofWalk walk).toList = walk.toList := by
  unfold ofWalk
  rw [toList_feed follows]
  rfl

end Alone

/-- A visitor of the sink of which, before each of its elements, the others have pushed theirs. It
    dies where the log has no further push of its own. -/
def amid (i : Nat) (visit : Visitor (Sink α) α) : Visitor (Sink α × List (Nat × α)) α :=
  fun (sink, log) a =>
    match log.dropWhile (·.1 ≠ i) with
    | [] => ((sink, log), .stop)
    | _ :: rest =>
      let others := (log.takeWhile (·.1 ≠ i)).map Prod.snd
      let (next, flow) := visit (others.foldl push sink) a
      ((next, rest), flow)

theorem amid_of_foreign {i : Nat} {log : List (Nat × α)} (foreign : ∀ entry ∈ log, entry.1 ≠ i)
    (visit : Visitor (Sink α) α) (sink : Sink α) (a : α) :
    amid i visit (sink, log) a = ((sink, log), .stop) := by
  have left : log.dropWhile (·.1 ≠ i) = [] := by
    rw [List.dropWhile_eq_nil_iff]
    simpa using foreign
  simp only [amid, left]

theorem amid_append_cons {i : Nat} {others : List (Nat × α)}
    (foreign : ∀ entry ∈ others, entry.1 ≠ i) (visit : Visitor (Sink α) α) (sink : Sink α)
    (a b : α) (rest : List (Nat × α)) :
    amid i visit (sink, others ++ (i, b) :: rest) a =
      (((visit ((others.map Prod.snd).foldl push sink) a).1, rest),
        (visit ((others.map Prod.snd).foldl push sink) a).2) := by
  have passed : ∀ entry ∈ others, decide (entry.1 ≠ i) = true := by simpa using foreign
  have kept : (others ++ (i, b) :: rest).takeWhile (·.1 ≠ i) = others := by
    rw [List.takeWhile_append_of_pos passed]
    simp
  have left : (others ++ (i, b) :: rest).dropWhile (·.1 ≠ i) = (i, b) :: rest := by
    rw [List.dropWhile_append_of_pos passed]
    simp
  simp only [amid, kept, left]

theorem forEach_amid {i : Nat} {own : List α} {log : List (Nat × α)}
    (pushed : pushedBy i log = own) (pending : List α) (sink : Sink α) :
    ∃ final rest,
      Outcome.forEach (Outcome.offer (amid i pushNext)) (own ++ pending) (sink, log) =
        ((final, rest), if pending = [] then .completed else .stopped) ∧
      pushedBy i rest = [] ∧
      final.toList ++ rest.map Prod.snd = sink.toList ++ log.map Prod.snd := by
  induction own generalizing log sink with
  | nil =>
    refine ⟨sink, log, ?_, pushed, rfl⟩
    cases pending with
    | nil => rfl
    | cons a pending =>
      -- The log has no further push of its own: here the party dies.
      have dies := amid_of_foreign (pushedBy_eq_nil_iff.mp pushed) pushNext sink a
      simp [Outcome.forEach, Outcome.offer, dies, Outcome.andThen]
  | cons a own ih =>
    obtain ⟨others, rest, rfl, foreign, remaining⟩ := exists_split_of_pushedBy_eq_cons pushed
    obtain ⟨final, last, ran, none, same⟩ :=
      ih remaining (((others.map Prod.snd).foldl push sink).push a)
    refine ⟨final, last, ?_, none, same.trans (by simp [toList_foldl_push])⟩
    rw [List.cons_append, Outcome.forEach, Outcome.offer, amid_append_cons foreign]
    exact ran

theorem run_amid {i : Nat} {walk : Walk α} {trace : Trace α} {log : List (Nat × α)}
    {pending : List α} (follows : walk.Follows trace)
    (whole : pushedBy i log ++ pending = walk.toList) (sink : Sink α) :
    ∃ final rest,
      walk.run (amid i pushNext) (sink, log) =
        ((final, rest), if pending = [] then (sink.feed walk).2 else .stopped) ∧
      pushedBy i rest = [] ∧
      final.toList ++ rest.map Prod.snd = sink.toList ++ log.map Prod.snd := by
  obtain ⟨final, rest, ran, none, same⟩ := forEach_amid (i := i) rfl pending sink
  refine ⟨final, rest, ?_, none, same⟩
  rw [follows, Trace.run, ← follows.toList_eq, ← whole, ran, feed_eq follows, follows.outcome_eq]
  split <;> rfl

end Sink

structure Traversal (H : Type) where
  host : Host H
  bound : Nat
  start : H
  includeSelf : Bool
  lineage : Lineage

variable {H : Type} [DecidableEq H]

def Traversal.walk (traversal : Traversal H) : Walk H :=
  traversal.host.lineage traversal.bound traversal.start traversal.includeSelf traversal.lineage

theorem Traversal.follows (traversal : Traversal H) :
    traversal.walk.Follows (traversal.host.lineageTrace traversal.bound traversal.start
      traversal.includeSelf traversal.lineage) :=
  traversal.host.lineage_follows _ _ _ _

/-- In every state the sink holds what it held before and then an interleaving of the parties'
    pushes, of each a beginning of what its walk visits alone: those pushes that its feeding makes
    if the others push in between and it dies where it now stands. A party that is done has pushed
    all, and its feeding ends as it does alone, which is how its walk ends for a visitor that never
    stops. -/
theorem feeding_interleaves (sink : Sink H) (traversals : List (Traversal H)) (turns : List Turn) :
    let walks := traversals.map Traversal.walk
    let before := Feeding.start sink walks
    let log := before.history turns
    let after := before.run turns
    after.sink.toList = sink.toList ++ log.map Prod.snd ∧
      (∀ entry ∈ log, entry.1 < walks.length) ∧
      (∀ walk ∈ walks, ∀ sink : Sink H,
        (sink.feed walk).1.toList = sink.toList ++ walk.toList ∧
          (sink.feed walk).2 = walk.outcome) ∧
      (∀ i walk, walks[i]? = some walk → ∃ pending, after.pendings[i]? = some pending ∧
        pushedBy i log ++ pending = walk.toList ∧
        ∃ final rest,
          walk.run (Sink.amid i Sink.pushNext) (sink, log) =
            ((final, rest), if pending = [] then (sink.feed walk).2 else .stopped) ∧
          pushedBy i rest = [] ∧ after.sink.toList = final.toList ++ rest.map Prod.snd) ∧
      (after.Finished → (∀ i walk, walks[i]? = some walk → pushedBy i log = walk.toList) ∧
        after.sink.size = sink.size + (walks.map fun walk => walk.toList.length).sum) := by
  intro walks before log after
  have leads : before.Leads log after := before.run_leads turns
  refine ⟨leads.sink, ?_, ?_, ?_, leads.whole_of_finished⟩
  · intro entry member
    have known := leads.known entry member
    rwa [Feeding.start_pendings, List.length_map] at known
  · intro walk isWalk sink
    obtain ⟨traversal, -, rfl⟩ := List.mem_map.mp isWalk
    have follows := traversal.follows
    exact ⟨Sink.toList_feed follows sink, congrArg Prod.snd (Sink.feed_eq follows sink)⟩
  · intro i walk isWalk
    obtain ⟨pending, isPending, whole⟩ := leads.party_of_walk isWalk
    obtain ⟨traversal, -, rfl⟩ := List.mem_map.mp (List.mem_of_getElem? isWalk)
    obtain ⟨final, rest, ran, none, same⟩ := Sink.run_amid traversal.follows whole sink
    exact ⟨pending, isPending, whole, final, rest, ran, none, leads.sink.trans same.symm⟩

end GenericTypes
