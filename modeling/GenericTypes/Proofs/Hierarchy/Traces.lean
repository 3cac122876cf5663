import GenericTypes.Hierarchy.Ancestors
import GenericTypes.Proofs.Hierarchy.Ascent
import GenericTypes.Proofs.Walk.Trace

namespace GenericTypes.Host

variable {H σ : Type} {host : Host H} {bound more : Nat}

def climbTrace (host : Host H) : (steps : Nat) → Option H → Trace H
  | _, none => .nothing
  | 0, some _ => ⟨[], .unfinished⟩
  | steps + 1, some h =>
    if host.isProperClass h then (host.climbTrace steps (host.superclass h)).cons h else .nothing

theorem climb_eq_run (visit : Visitor σ H) (steps : Nat) (first : Option H) (s : σ) :
    host.climb visit steps s first = (host.climbTrace steps first).run (Outcome.offer visit) s := by
  induction steps generalizing first s with
  | zero => cases first <;> rfl
  | succ steps ih =>
    cases first with
    | none => rfl
    | some h =>
      cases climbs : host.isProperClass h with
      | false => simp [climb, climbTrace, climbs, Trace.run_nothing]
      | true =>
        simp only [climb, climbTrace, climbs, ↓reduceIte, Trace.run_cons]
        exact Outcome.andThen_congr fun s _ => ih (host.superclass h) s

theorem climbTrace_extendedBy (enough : bound ≤ more) (first : Option H) :
    (host.climbTrace bound first).ExtendedBy (host.climbTrace more first) := by
  induction bound generalizing more first with
  | zero =>
    cases first with
    | none => cases more <;> exact .refl _
    | some h => exact .of_unfinished rfl (by simp [climbTrace]) _
  | succ steps ih =>
    obtain _ | more := more
    · simp at enough
    cases first with
    | none => exact .refl _
    | some h =>
      cases climbs : host.isProperClass h with
      | false => simpa [climbTrace, climbs] using .refl _
      | true =>
        simp only [climbTrace, climbs, ↓reduceIte]
        exact (ih (Nat.le_of_succ_le_succ enough) (host.superclass h)).cons h

theorem climbTrace_exhausts (steps : Nat) (first : Option H) :
    (host.climbTrace steps first).Exhausts steps := by
  induction steps generalizing first with
  | zero => exact fun _ => Nat.zero_le _
  | succ steps ih =>
    cases first with
    | none => exact .of_completed rfl _
    | some h =>
      cases climbs : host.isProperClass h with
      | false => exact .of_completed (by simp [climbTrace, climbs, Trace.nothing]) _
      | true =>
        simp only [climbTrace, climbs, ↓reduceIte]
        exact (ih (host.superclass h)).cons h

def chainTrace (host : Host H) (bound : Nat) (start : H) (includeSelf : Bool) : Trace H :=
  host.climbTrace bound <|
    if includeSelf then some start
    else if host.isProperClass start then host.superclass start
    else none

theorem superclassChain_follows (bound : Nat) (start : H) (includeSelf : Bool) :
    (host.superclassChain bound start includeSelf).Follows
      (host.chainTrace bound start includeSelf) :=
  fun _ visit s => climb_eq_run visit bound _ s

variable [DecidableEq H]

/-- An ascent over siblings past the handles already seen, given the trace of what lies above each
    of them. -/
def traceEach (traceAbove : List H → H → Trace H) : (seen siblings : List H) → Trace H
  | _, [] => .nothing
  | seen, h :: rest =>
    if h ∈ seen then traceEach traceAbove seen rest
    else
      let above := traceAbove (h :: seen) h
      (above.andThen (traceEach traceAbove (above.sequence.reverse ++ h :: seen) rest)).cons h

def traceAbove (host : Host H) : (depth : Nat) → (seen : List H) → H → Trace H
  | 0, _, _ => ⟨[], .unfinished⟩
  | depth + 1, seen, h => traceEach (host.traceAbove depth) seen (host.interfaces h)

section TraceEach

variable {trace longer : List H → H → Trace H} {seen rest siblings : List H} {h : H}

theorem traceEach_known (known : h ∈ seen) :
    traceEach trace seen (h :: rest) = traceEach trace seen rest := by
  simp [traceEach, known]

theorem traceEach_fresh (fresh : h ∉ seen) :
    traceEach trace seen (h :: rest) =
      ((trace (h :: seen) h).andThen
        (traceEach trace ((trace (h :: seen) h).sequence.reverse ++ h :: seen) rest)).cons h := by
  simp [traceEach, fresh]

theorem traceEach_ascent
    (closes : ∀ seen h, (trace seen h).ending = .completed →
      host.Ascent seen (host.interfaces h) (trace seen h).sequence)
    (completed : (traceEach trace seen siblings).ending = .completed) :
    host.Ascent seen siblings (traceEach trace seen siblings).sequence := by
  induction siblings generalizing seen with
  | nil => exact .done
  | cons h rest ih =>
    by_cases known : h ∈ seen
    · rw [traceEach_known known] at completed ⊢
      exact .pass known (ih completed)
    · rw [traceEach_fresh known] at completed ⊢
      by_cases above : (trace (h :: seen) h).ending = .completed
      · rw [Trace.andThen_of_completed above] at completed ⊢
        exact .visit known (closes _ h above) (ih completed)
      · rw [Trace.andThen_of_ne_completed above] at completed
        exact absurd completed above

theorem traceEach_extendedBy (extended : ∀ seen h, (trace seen h).ExtendedBy (longer seen h)) :
    (traceEach trace seen siblings).ExtendedBy (traceEach longer seen siblings) := by
  induction siblings generalizing seen with
  | nil => exact .refl _
  | cons h rest ih =>
    by_cases known : h ∈ seen
    · rw [traceEach_known known, traceEach_known known]
      exact ih
    · rw [traceEach_fresh known, traceEach_fresh known]
      refine ((extended _ h).andThen fun completed => ?_).cons h
      rw [(extended _ h).completed completed]
      exact ih

end TraceEach

theorem traceAbove_ascent {depth : Nat} {seen : List H} {h : H}
    (completed : (host.traceAbove depth seen h).ending = .completed) :
    host.Ascent seen (host.interfaces h) (host.traceAbove depth seen h).sequence := by
  induction depth generalizing seen h with
  | zero => simp [traceAbove] at completed
  | succ depth ih => exact traceEach_ascent (fun _ _ => ih) completed

theorem Ascent.traceEach_eq {seen siblings visits : List H} {depth : Nat}
    (ascent : host.Ascent seen siblings visits) (deep : visits.length ≤ depth) :
    traceEach (host.traceAbove depth) seen siblings = ⟨visits, .completed⟩ := by
  induction ascent generalizing depth with
  | done => rfl
  | pass known _ ih =>
    rw [traceEach_known known]
    exact ih deep
  | visit fresh upward onward ihUpward ihOnward =>
    obtain _ | depth := depth
    · simp at deep
    simp only [List.length_cons, List.length_append] at deep
    rw [traceEach_fresh fresh, traceAbove, ihUpward (by omega), ihOnward (by omega)]
    rfl

theorem Ascent.traceAbove_eq {seen visits : List H} {start : H} {depth : Nat}
    (ascent : host.Ascent seen (host.interfaces start) visits) (deep : visits.length < depth) :
    host.traceAbove depth seen start = ⟨visits, .completed⟩ := by
  obtain _ | depth := depth
  · simp at deep
  · exact ascent.traceEach_eq (Nat.le_of_lt_succ deep)

theorem traceAbove_extendedBy (enough : bound ≤ more) (seen : List H) (h : H) :
    (host.traceAbove bound seen h).ExtendedBy (host.traceAbove more seen h) := by
  induction bound generalizing more seen h with
  | zero => exact .of_unfinished rfl (by simp [traceAbove]) _
  | succ depth ih =>
    obtain _ | more := more
    · simp at enough
    exact traceEach_extendedBy (ih (Nat.le_of_succ_le_succ enough))

theorem traceEach_exhausts {trace : List H → H → Trace H} {depth : Nat}
    (exhausts : ∀ seen h, (trace seen h).Exhausts depth) (seen siblings : List H) :
    (traceEach trace seen siblings).Exhausts (depth + 1) := by
  induction siblings generalizing seen with
  | nil => exact .of_completed rfl _
  | cons h rest ih =>
    by_cases known : h ∈ seen
    · rw [traceEach_known known]
      exact ih seen
    · rw [traceEach_fresh known]
      have exhaustsRest := ih ((trace (h :: seen) h).sequence.reverse ++ h :: seen)
      exact ((exhausts _ h).andThen fun ended => Nat.le_of_succ_le (exhaustsRest ended)).cons h

theorem traceAbove_exhausts (depth : Nat) (seen : List H) (h : H) :
    (host.traceAbove depth seen h).Exhausts depth := by
  induction depth generalizing seen h with
  | zero => exact fun _ => Nat.zero_le _
  | succ depth ih => exact traceEach_exhausts ih seen (host.interfaces h)

theorem visitAbove_eq_run (visit : Visitor σ H) (depth : Nat) (s : σ) (seen : List H) (h : H) :
    host.visitAbove visit depth (s, ⟨seen⟩) h =
      (host.traceAbove depth seen h).run (offerNew visit) (s, ⟨seen⟩) := by
  induction depth generalizing s seen h with
  | zero => rfl
  | succ depth ih =>
    rw [visitAbove_succ, traceAbove]
    induction host.interfaces h generalizing s seen with
    | nil => rfl
    | cons h rest ihRest =>
      rw [Outcome.forEach]
      by_cases known : h ∈ seen
      · rw [ascendTo_known visit depth s known, traceEach_known known]
        exact ihRest s seen
      · rw [ascendTo_fresh visit depth s known, traceEach_fresh known, Trace.run_cons,
          Outcome.andThen_assoc]
        refine Outcome.andThen_congr fun state offered => ?_
        obtain rfl := offerNew_completed known offered
        rw [Trace.run_andThen, ih]
        refine Outcome.andThen_congr fun state ran => ?_
        obtain ⟨s, recorded⟩ := state
        -- Only a completed ascent lets the next sibling have its turn, with all visits recorded.
        have completed := Trace.ending_of_run_completed ran
        have ascent := traceAbove_ascent completed
        rw [Trace.run_of_completed completed] at ran
        obtain rfl : recorded =
            ⟨(host.traceAbove depth (h :: seen) h).sequence.reverse ++ h :: seen⟩ :=
          forEach_offerNew_completed ascent.nodup (fun _ => ascent.not_mem_seen) ran
        exact ihRest s _

theorem Ascent.latticeFrom_eq {seen visits : List H} {start : H}
    (ascent : host.Ascent seen (host.interfaces start) visits) (below : host.isRoot start = false)
    (visit : Visitor σ H) (deep : visits.length < bound) (s : σ) :
    host.latticeFrom visit bound start false (s, ⟨seen⟩) =
      Outcome.forEach (offerNew visit) visits (s, ⟨seen⟩) := by
  have ran := host.visitAbove_eq_run visit bound s seen start
  rw [ascent.traceAbove_eq deep, Trace.run_of_completed rfl] at ran
  simpa [latticeFrom, below] using ran

def latticeTrace (host : Host H) (bound : Nat) (start : H) (includeSelf : Bool) : Trace H :=
  if host.isRoot start then .nothing
  else if includeSelf && host.isInterface start then
    (host.traceAbove bound [start] start).cons start
  else host.traceAbove bound [] start

theorem latticeFrom_eq_run (visit : Visitor σ H) (bound : Nat) (start : H) (includeSelf : Bool)
    (s : σ) :
    host.latticeFrom visit bound start includeSelf (s, .empty) =
      (host.latticeTrace bound start includeSelf).run (offerNew visit) (s, .empty) := by
  unfold latticeFrom latticeTrace
  split
  · rfl
  · split
    · rw [Trace.run_cons]
      refine Outcome.andThen_congr fun state offered => ?_
      obtain rfl := offerNew_completed (by simp) offered
      exact visitAbove_eq_run visit bound _ _ start
    · exact visitAbove_eq_run visit bound s [] start

theorem run_offerNew_fst (trace : Trace H) (visit : Visitor σ H) (s : σ) (seen : Visited H) :
    ((trace.run (offerNew visit) (s, seen)).1.1, (trace.run (offerNew visit) (s, seen)).2) =
      trace.run (Outcome.offer visit) s := by
  have projected := forEach_offerNew_fst visit trace.sequence s seen
  simp only [Trace.run, ← projected]
  cases Outcome.forEach (offerNew visit) trace.sequence (s, seen) with
  | mk state outcome => cases outcome <;> rfl

theorem interfaceLattice_follows (bound : Nat) (start : H) (includeSelf : Bool) :
    (host.interfaceLattice bound start includeSelf).Follows
      (host.latticeTrace bound start includeSelf) := by
  intro σ visit s
  rw [← run_offerNew_fst _ visit s .empty, ← latticeFrom_eq_run]
  rfl

theorem latticeTrace_extendedBy (enough : bound ≤ more) (start : H) (includeSelf : Bool) :
    (host.latticeTrace bound start includeSelf).ExtendedBy
      (host.latticeTrace more start includeSelf) := by
  unfold latticeTrace
  split
  · exact .refl _
  · split
    · exact (traceAbove_extendedBy enough [start] start).cons start
    · exact traceAbove_extendedBy enough [] start

theorem latticeTrace_exhausts (bound : Nat) (start : H) (includeSelf : Bool) :
    (host.latticeTrace bound start includeSelf).Exhausts bound := by
  unfold latticeTrace
  split
  · exact .of_completed rfl _
  · split
    · have exhausts := (host.traceAbove_exhausts bound [start] start).cons start
      exact fun ended => Nat.le_of_succ_le (exhausts ended)
    · exact traceAbove_exhausts bound [] start

def lineageTrace (host : Host H) (bound : Nat) (start : H) (includeSelf : Bool) :
    Lineage → Trace H
  | .chain => host.chainTrace bound start includeSelf
  | .lattice => host.latticeTrace bound start includeSelf
  | .all =>
    if host.isInterface start then host.latticeTrace bound start includeSelf
    else (host.chainTrace bound start includeSelf).andThen (host.latticeTrace bound start false)

theorem lineage_follows (bound : Nat) (start : H) (includeSelf : Bool) (lineage : Lineage) :
    (host.lineage bound start includeSelf lineage).Follows
      (host.lineageTrace bound start includeSelf lineage) := by
  cases lineage with
  | chain => exact superclassChain_follows bound start includeSelf
  | lattice => exact interfaceLattice_follows bound start includeSelf
  | all =>
    simp only [Host.lineage, ancestors, lineageTrace]
    split
    · exact interfaceLattice_follows bound start includeSelf
    · exact (superclassChain_follows bound start includeSelf).append
        (interfaceLattice_follows bound start false)

theorem lineageTrace_extendedBy (enough : bound ≤ more) (start : H) (includeSelf : Bool)
    (lineage : Lineage) :
    (host.lineageTrace bound start includeSelf lineage).ExtendedBy
      (host.lineageTrace more start includeSelf lineage) := by
  have chain : ∀ first, (host.climbTrace bound first).ExtendedBy (host.climbTrace more first) :=
    climbTrace_extendedBy enough
  have lattice : ∀ includeSelf, (host.latticeTrace bound start includeSelf).ExtendedBy
      (host.latticeTrace more start includeSelf) := latticeTrace_extendedBy enough start
  cases lineage with
  | chain => exact chain _
  | lattice => exact lattice includeSelf
  | all =>
    simp only [lineageTrace]
    split
    · exact lattice includeSelf
    · exact (chain _).andThen fun _ => lattice false

theorem lineageTrace_exhausts (bound : Nat) (start : H) (includeSelf : Bool) (lineage : Lineage) :
    (host.lineageTrace bound start includeSelf lineage).Exhausts bound := by
  have lattice : ∀ includeSelf, (host.latticeTrace bound start includeSelf).Exhausts bound :=
    latticeTrace_exhausts bound start
  cases lineage with
  | chain => exact climbTrace_exhausts bound _
  | lattice => exact lattice includeSelf
  | all =>
    simp only [lineageTrace]
    split
    · exact lattice includeSelf
    · exact (climbTrace_exhausts bound _).andThen (lattice false)

end GenericTypes.Host
