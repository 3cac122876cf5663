import GenericTypes.Proofs.Hierarchy.Traces
import GenericTypes.Proofs.Walk.Stopping

namespace GenericTypes.Host

variable {H : Type} [DecidableEq H] {host : Host H} {start : H} {includeSelf : Bool}
  {lineage : Lineage} {bound limit : Nat}

theorem lineageTrace_completed
    (finite : ∀ bound, (host.lineage bound start includeSelf lineage).toList.length ≤ limit)
    (enough : limit < bound) :
    (host.lineageTrace bound start includeSelf lineage).ending = .completed := by
  by_contra ended
  have long := host.lineageTrace_exhausts bound start includeSelf lineage ended
  have short := finite bound
  rw [(lineage_follows bound start includeSelf lineage).toList_eq] at short
  omega

theorem length_lineage_le {enough : Nat}
    (ends : (host.lineage enough start includeSelf lineage).outcome = .completed) (bound : Nat) :
    (host.lineage bound start includeSelf lineage).toList.length ≤
      (host.lineage enough start includeSelf lineage).toList.length := by
  have follows (bound : Nat) := host.lineage_follows bound start includeSelf lineage
  rw [(follows enough).outcome_eq] at ends
  rw [(follows bound).toList_eq, (follows enough).toList_eq]
  rcases Nat.le_total bound enough with less | more
  · exact (lineageTrace_extendedBy less start includeSelf lineage).sequence.length_le
  · rw [(lineageTrace_extendedBy more start includeSelf lineage).completed ends]

theorem lineage_eq_of_terminates
    (terminates : (host.lineage bound start includeSelf lineage).Terminates) {more : Nat}
    (longer : bound ≤ more) :
    host.lineage more start includeSelf lineage = host.lineage bound start includeSelf lineage := by
  have follows (bound : Nat) := host.lineage_follows bound start includeSelf lineage
  have goesOn : Visitor.NeverStops fun (_ : Unit) (_ : H) => ((), Flow.proceed) := fun _ _ => rfl
  have completed := (terminates (fun _ _ => ((), Flow.proceed)) ()).2 goesOn
  rw [(follows bound).run_of_neverStops goesOn] at completed
  have same := (lineageTrace_extendedBy longer start includeSelf lineage).completed completed
  apply Walk.eq_of_run
  intro σ visit s
  rw [follows more visit s, same, follows bound visit s]

/-- A walk that visits finitely many handles ends, and with every bound it visits the same sequence.
    A visitor is offered the shortest beginning that it stops after, or all of the sequence; the
    walk is stopped exactly if the visitor stops it; and folding the walk is folding the sequence up
    to the first stop. -/
theorem lineage_stops_at_first_stop (host : Host H) (start : H) (includeSelf : Bool)
    (lineage : Lineage) (limit : Nat)
    (finite : ∀ bound, (host.lineage bound start includeSelf lineage).toList.length ≤ limit) :
    ∃ sequence : List H, ∀ bound, limit < bound →
      let walk := host.lineage bound start includeSelf lineage
      walk.toList = sequence ∧ walk.outcome = .completed ∧
      ∀ {σ : Type} (visit : Visitor σ H) (s : σ),
        visit.Receives s sequence (walk.offered visit s) (walk.run visit s).2 ∧
        ((walk.run visit s).2 = .stopped ↔
          ∃ beginning, beginning <+: walk.offered visit s ∧ visit.StopsAfter s beginning) ∧
        (walk.run visit s).1 = (walk.offered visit s).foldl visit.next s ∧
        walk.fold visit s = visit.foldUntilStop s walk.toList := by
  have completed := lineageTrace_completed finite (Nat.lt_succ_self limit)
  refine ⟨(host.lineageTrace (limit + 1) start includeSelf lineage).sequence, ?_⟩
  intro bound enough walk
  have follows : walk.Follows (host.lineageTrace (limit + 1) start includeSelf lineage) := by
    rw [← (lineageTrace_extendedBy enough start includeSelf lineage).completed completed]
    exact lineage_follows bound start includeSelf lineage
  have offers := follows.offers completed
  refine ⟨follows.toList_eq, follows.outcome_eq.trans completed, fun visit s => ?_⟩
  obtain ⟨receives, final⟩ := offers.receives visit s
  refine ⟨receives, receives.stopped_iff, final, ?_⟩
  rw [follows.toList_eq]
  exact offers.fold_eq visit s

def layers : Host (Fin 6) where
  isInterface h := 2 ≤ h ∧ h ≤ 4
  superclass h :=
    match h with
    | 0 => some 1
    | 1 => some 5
    | _ => none
  interfaces h :=
    match h with
    | 0 => [2, 4]
    | 2 => [3]
    | _ => []
  enclosing _ := none
  arity _ := 0
  arrayHandle h := h

/-- A visitor that counts, and stops at the third handle: past the chain, and before the interfaces
    above and beside that one. -/
def countToThree : Visitor Nat (Fin 6) :=
  fun count _ => (count + 1, .ofBool (count + 1 < 3))

theorem layers_stop_at_third :
    (∀ bound, (layers.lineage bound 0 true .all).toList.length ≤ 5) ∧
      ∃ sequence, ∀ bound, 5 < bound →
        (layers.lineage bound 0 true .all).toList = sequence ∧
        countToThree.Receives 0 sequence ((layers.lineage bound 0 true .all).offered countToThree 0)
          ((layers.lineage bound 0 true .all).run countToThree 0).2 ∧
        (layers.lineage bound 0 true .all).fold countToThree 0 =
          countToThree.foldUntilStop 0 (layers.lineage bound 0 true .all).toList := by
  have ends : (layers.lineage 3 0 true .all).outcome = .completed := by decide
  have finite : ∀ bound, (layers.lineage bound 0 true .all).toList.length ≤ 5 :=
    length_lineage_le ends
  obtain ⟨sequence, runs⟩ := lineage_stops_at_first_stop layers 0 true .all 5 finite
  refine ⟨finite, sequence, fun bound enough => ?_⟩
  obtain ⟨listed, -, visited⟩ := runs bound enough
  obtain ⟨receives, -, -, folded⟩ := visited countToThree 0
  exact ⟨listed, receives, folded⟩

example : (layers.lineage 6 0 true .all).toList = [0, 1, 2, 3, 4] ∧
    (layers.lineage 6 0 true .all).offered countToThree 0 = [0, 1, 2] := by decide

end GenericTypes.Host
