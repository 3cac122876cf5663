import GenericTypes.Proofs.Walk.Offering

namespace GenericTypes

variable {α σ : Type}

structure Trace (α : Type) where
  sequence : List α
  ending : Outcome
deriving DecidableEq, Repr

namespace Trace

def nothing : Trace α := ⟨[], .completed⟩

def cons (a : α) (trace : Trace α) : Trace α := ⟨a :: trace.sequence, trace.ending⟩

def andThen (first second : Trace α) : Trace α :=
  match first.ending with
  | .completed => ⟨first.sequence ++ second.sequence, second.ending⟩
  | ending => ⟨first.sequence, ending⟩

theorem andThen_of_completed {first : Trace α} (completed : first.ending = .completed)
    (second : Trace α) :
    first.andThen second = ⟨first.sequence ++ second.sequence, second.ending⟩ := by
  simp [andThen, completed]

theorem andThen_of_ne_completed {first : Trace α} (ended : first.ending ≠ .completed)
    (second : Trace α) : first.andThen second = first := by
  obtain ⟨sequence, ending⟩ := first
  cases ending with
  | completed => exact absurd rfl ended
  | stopped => rfl
  | unfinished => rfl

theorem mem_andThen {first second : Trace α} {a : α}
    (member : a ∈ (first.andThen second).sequence) : a ∈ first.sequence ∨ a ∈ second.sequence := by
  by_cases completed : first.ending = .completed
  · rw [andThen_of_completed completed] at member
    exact List.mem_append.mp member
  · rw [andThen_of_ne_completed completed] at member
    exact .inl member

/-- Steps through the sequence, and ends as the trace does if no step ends it before. -/
def run (trace : Trace α) (step : σ → α → σ × Outcome) (s : σ) : σ × Outcome :=
  Outcome.andThen (Outcome.forEach step trace.sequence s) fun s => (s, trace.ending)

theorem run_nothing (step : σ → α → σ × Outcome) (s : σ) :
    (nothing : Trace α).run step s = (s, .completed) := rfl

theorem run_cons (a : α) (trace : Trace α) (step : σ → α → σ × Outcome) (s : σ) :
    (cons a trace).run step s = Outcome.andThen (step s a) (trace.run step) := by
  simp only [run, cons, Outcome.forEach, Outcome.andThen_assoc]
  rfl

theorem run_of_completed {trace : Trace α} (completed : trace.ending = .completed)
    (step : σ → α → σ × Outcome) (s : σ) :
    trace.run step s = Outcome.forEach step trace.sequence s := by
  rw [run, completed]
  cases Outcome.forEach step trace.sequence s with
  | mk s outcome => cases outcome <;> rfl

theorem ending_of_run_completed {trace : Trace α} {step : σ → α → σ × Outcome} {s next : σ}
    (ran : trace.run step s = (next, .completed)) : trace.ending = .completed := by
  rw [run] at ran
  cases stepped : Outcome.forEach step trace.sequence s with
  | mk state outcome =>
    rw [stepped] at ran
    cases outcome with
    | completed => exact congrArg Prod.snd ran
    | stopped => simp [Outcome.andThen] at ran
    | unfinished => simp [Outcome.andThen] at ran

theorem run_andThen (first second : Trace α) (step : σ → α → σ × Outcome) (s : σ) :
    (first.andThen second).run step s = Outcome.andThen (first.run step s) (second.run step) := by
  by_cases completed : first.ending = .completed
  · rw [andThen_of_completed completed, run_of_completed completed]
    simp only [run, Outcome.forEach_append, Outcome.andThen_assoc]
    rfl
  · rw [andThen_of_ne_completed completed]
    simp only [run, Outcome.andThen_assoc]
    refine Outcome.andThen_congr fun s _ => ?_
    cases ending : first.ending with
    | completed => exact absurd ending completed
    | stopped => rfl
    | unfinished => rfl

theorem run_of_neverStops (trace : Trace α) {visit : Visitor σ α} (goesOn : visit.NeverStops)
    (s : σ) :
    trace.run (Outcome.offer visit) s = (trace.sequence.foldl visit.next s, trace.ending) := by
  simp only [run, Outcome.forEach_offer_of_neverStops goesOn, Outcome.andThen]

/-- The longer trace goes on where the other one gave up; one that is completed stays as it is. -/
structure ExtendedBy (trace longer : Trace α) : Prop where
  sequence : trace.sequence <+: longer.sequence
  completed : trace.ending = .completed → longer = trace

theorem ExtendedBy.refl (trace : Trace α) : trace.ExtendedBy trace :=
  ⟨List.prefix_rfl, fun _ => rfl⟩

theorem ExtendedBy.cons {trace longer : Trace α} (extended : trace.ExtendedBy longer) (a : α) :
    (trace.cons a).ExtendedBy (longer.cons a) where
  sequence := (List.prefix_cons_inj a).mpr extended.sequence
  completed ended := by rw [extended.completed ended]

theorem ExtendedBy.of_unfinished {trace : Trace α} (nothing : trace.sequence = [])
    (unfinished : trace.ending ≠ .completed) (longer : Trace α) : trace.ExtendedBy longer where
  sequence := by
    rw [nothing]
    exact List.nil_prefix
  completed ended := absurd ended unfinished

theorem ExtendedBy.andThen {first longer second other : Trace α}
    (extendedFirst : first.ExtendedBy longer)
    (extendedSecond : first.ending = .completed → second.ExtendedBy other) :
    (first.andThen second).ExtendedBy (longer.andThen other) := by
  by_cases completed : first.ending = .completed
  · have extendedSecond := extendedSecond completed
    rw [extendedFirst.completed completed, andThen_of_completed completed,
      andThen_of_completed completed]
    refine ⟨(List.prefix_append_right_inj _).mpr extendedSecond.sequence, fun ended => ?_⟩
    rw [extendedSecond.completed ended]
  · rw [andThen_of_ne_completed completed]
    refine ⟨extendedFirst.sequence.trans ?_, fun ended => absurd ended completed⟩
    by_cases longerCompleted : longer.ending = .completed
    · rw [andThen_of_completed longerCompleted]
      exact List.prefix_append _ _
    · exact ⟨[], by rw [andThen_of_ne_completed longerCompleted, List.append_nil]⟩

def Exhausts (trace : Trace α) (bound : Nat) : Prop :=
  trace.ending ≠ .completed → bound ≤ trace.sequence.length

theorem Exhausts.of_completed {trace : Trace α} (completed : trace.ending = .completed)
    (bound : Nat) : trace.Exhausts bound :=
  fun ended => absurd completed ended

theorem Exhausts.cons {trace : Trace α} {bound : Nat} (exhausts : trace.Exhausts bound) (a : α) :
    (trace.cons a).Exhausts (bound + 1) :=
  fun ended => Nat.succ_le_succ (exhausts ended)

theorem Exhausts.andThen {first second : Trace α} {bound : Nat}
    (exhaustsFirst : first.Exhausts bound) (exhaustsSecond : second.Exhausts bound) :
    (first.andThen second).Exhausts bound := by
  intro ended
  by_cases completed : first.ending = .completed
  · rw [andThen_of_completed completed] at ended ⊢
    exact Nat.le_trans (exhaustsSecond ended) (by simp)
  · rw [andThen_of_ne_completed completed]
    exact exhaustsFirst completed

end Trace

namespace Walk

variable {walk first second : Walk α} {trace before after : Trace α}

/-- Every visitor is offered the sequence of the trace until it stops; a walk that is not stopped
    ends as the trace does. -/
def Follows (walk : Walk α) (trace : Trace α) : Prop :=
  ∀ ⦃σ : Type⦄ (visit : Visitor σ α) (s : σ), walk.run visit s = trace.run (Outcome.offer visit) s

theorem Follows.append (followsBefore : first.Follows before)
    (followsAfter : second.Follows after) :
    (first ++ second).Follows (before.andThen after) := by
  intro σ visit s
  change Outcome.andThen (first.run visit s) (second.run visit) = _
  rw [Trace.run_andThen, followsBefore visit s]
  exact Outcome.andThen_congr fun s _ => followsAfter visit s

theorem Follows.run_of_neverStops (follows : walk.Follows trace) {visit : Visitor σ α}
    (goesOn : visit.NeverStops) (s : σ) :
    walk.run visit s = (trace.sequence.foldl visit.next s, trace.ending) := by
  rw [follows visit s, trace.run_of_neverStops goesOn]

theorem Follows.toList_eq (follows : walk.Follows trace) : walk.toList = trace.sequence := by
  have goesOn : Visitor.NeverStops fun (acc : List α) a => (a :: acc, Flow.proceed) :=
    fun _ _ => rfl
  have gathered : trace.sequence.foldl (fun acc a => a :: acc) [] = trace.sequence.reverse := by
    simp
  rw [toList, collect, follows.run_of_neverStops goesOn]
  exact (congrArg List.reverse gathered).trans (List.reverse_reverse _)

theorem Follows.outcome_eq (follows : walk.Follows trace) : walk.outcome = trace.ending := by
  have goesOn : Visitor.NeverStops fun (_ : Unit) (_ : α) => ((), Flow.proceed) := fun _ _ => rfl
  rw [outcome, follows.run_of_neverStops goesOn]

theorem Follows.offers (follows : walk.Follows trace) (completed : trace.ending = .completed) :
    walk.Offers trace.sequence := by
  intro σ visit s
  rw [follows visit s, Trace.run_of_completed completed]

theorem Offers.follows {sequence : List α} (offers : walk.Offers sequence) :
    walk.Follows ⟨sequence, .completed⟩ := by
  intro σ visit s
  rw [offers visit s, Trace.run_of_completed rfl]

end Walk

end GenericTypes
