import GenericTypes.Proofs.Walk.Offering

namespace GenericTypes

variable {α σ : Type}

namespace Visitor

variable {visit : Visitor σ α} {s : σ} {a : α} {offered rest sequence : List α} {outcome : Outcome}

def logged (visit : Visitor σ α) : Visitor (σ × List α) α :=
  fun (s, log) a =>
    let (s, flow) := visit s a
    ((s, log ++ [a]), flow)

/-- Offered these elements in turn, the visitor answers the last of them with a stop. -/
def StopsAfter (visit : Visitor σ α) (s : σ) (offered : List α) : Prop :=
  ∃ before last, offered = before ++ [last] ∧ (visit (before.foldl visit.next s) last).2 = .stop

/-- What a visitor is offered of a sequence, and how that ends: the shortest beginning that the
    visitor stops after, and if there is none the whole sequence. -/
inductive Receives (visit : Visitor σ α) (s : σ) (sequence : List α) : List α → Outcome → Prop where
  | stopped {offered : List α} (begins : offered <+: sequence) (stops : visit.StopsAfter s offered)
      (shortest : ∀ other, other <+: sequence → visit.StopsAfter s other →
        offered.length ≤ other.length) : visit.Receives s sequence offered .stopped
  | completed (goesOn : ∀ offered, offered <+: sequence → ¬ visit.StopsAfter s offered) :
      visit.Receives s sequence sequence .completed

def foldUntilStop (accumulate : Visitor σ α) : σ → List α → σ
  | acc, [] => acc
  | acc, a :: rest =>
    match accumulate acc a with
    | (acc, .proceed) => accumulate.foldUntilStop acc rest
    | (acc, .stop) => acc

theorem not_stopsAfter_nil : ¬ visit.StopsAfter s [] := by
  rintro ⟨before, last, split, -⟩
  simp at split

theorem stopsAfter_cons_iff (proceeds : (visit s a).2 = .proceed) :
    visit.StopsAfter s (a :: rest) ↔ visit.StopsAfter (visit.next s a) rest := by
  constructor
  · rintro ⟨before, last, split, stops⟩
    cases before with
    | nil =>
      obtain ⟨rfl, rfl⟩ : a = last ∧ rest = [] := by simpa using split
      simp [proceeds] at stops
    | cons first before =>
      obtain ⟨rfl, rfl⟩ : a = first ∧ rest = before ++ [last] := by simpa using split
      exact ⟨before, last, rfl, stops⟩
  · rintro ⟨before, last, rfl, stops⟩
    exact ⟨a :: before, last, rfl, stops⟩

theorem exists_of_stopsAfter_cons (proceeds : (visit s a).2 = .proceed)
    (begins : offered <+: a :: rest) (stops : visit.StopsAfter s offered) :
    ∃ tail, offered = a :: tail ∧ tail <+: rest ∧ visit.StopsAfter (visit.next s a) tail := by
  rcases List.prefix_cons_iff.mp begins with rfl | ⟨tail, rfl, tailBegins⟩
  · exact absurd stops not_stopsAfter_nil
  · exact ⟨tail, rfl, tailBegins, (stopsAfter_cons_iff proceeds).mp stops⟩

theorem Receives.cons (proceeds : (visit s a).2 = .proceed)
    (receives : visit.Receives (visit.next s a) rest offered outcome) :
    visit.Receives s (a :: rest) (a :: offered) outcome := by
  cases receives with
  | stopped begins stops shortest =>
    refine .stopped ((List.prefix_cons_inj a).mpr begins) ((stopsAfter_cons_iff proceeds).mpr stops)
      fun other otherBegins otherStops => ?_
    obtain ⟨tail, rfl, tailBegins, tailStops⟩ :=
      exists_of_stopsAfter_cons proceeds otherBegins otherStops
    exact Nat.succ_le_succ (shortest tail tailBegins tailStops)
  | completed goesOn =>
    refine .completed fun other otherBegins otherStops => ?_
    obtain ⟨tail, -, tailBegins, tailStops⟩ :=
      exists_of_stopsAfter_cons proceeds otherBegins otherStops
    exact goesOn tail tailBegins tailStops

theorem Receives.of_stop (stops : (visit s a).2 = .stop) (rest : List α) :
    visit.Receives s (a :: rest) [a] .stopped := by
  refine .stopped ⟨rest, rfl⟩ ⟨[], a, rfl, stops⟩ fun other _ otherStops => ?_
  obtain ⟨before, last, rfl, -⟩ := otherStops
  simp

theorem Receives.of_nil : visit.Receives s [] [] .completed := by
  refine .completed fun other begins stops => ?_
  rw [List.prefix_nil.mp begins] at stops
  exact not_stopsAfter_nil stops

theorem Receives.begins (receives : visit.Receives s sequence offered outcome) :
    offered <+: sequence := by
  cases receives with
  | stopped begins _ _ => exact begins
  | completed _ => exact List.prefix_rfl

theorem Receives.stopped_iff (receives : visit.Receives s sequence offered outcome) :
    outcome = .stopped ↔ ∃ beginning, beginning <+: offered ∧ visit.StopsAfter s beginning := by
  cases receives with
  | stopped _ stops _ => exact ⟨fun _ => ⟨offered, List.prefix_rfl, stops⟩, fun _ => rfl⟩
  | completed goesOn =>
    refine ⟨nofun, ?_⟩
    rintro ⟨beginning, begins, stops⟩
    exact absurd stops (goesOn beginning begins)

end Visitor

namespace Outcome

theorem exists_received (visit : Visitor σ α) (sequence log : List α) (s : σ) :
    ∃ offered outcome, visit.Receives s sequence offered outcome ∧
      forEach (offer visit) sequence s = (offered.foldl visit.next s, outcome) ∧
      forEach (offer visit.logged) sequence (s, log) =
        ((offered.foldl visit.next s, log ++ offered), outcome) := by
  induction sequence generalizing s log with
  | nil => exact ⟨[], .completed, .of_nil, rfl, by simp [forEach]⟩
  | cons a rest ih =>
    have next : visit.logged.next (s, log) a = (visit.next s a, log ++ [a]) := rfl
    cases flow : (visit s a).2 with
    | proceed =>
      have flowLogged : (visit.logged (s, log) a).2 = .proceed := flow
      obtain ⟨offered, outcome, receives, ran, ranLogged⟩ := ih (log ++ [a]) (visit.next s a)
      refine ⟨a :: offered, outcome, receives.cons flow, ?_, ?_⟩
      · rw [forEach, offer_of_proceed flow]
        exact ran
      · rw [forEach, offer_of_proceed flowLogged, next]
        simpa [andThen] using ranLogged
    | stop =>
      have flowLogged : (visit.logged (s, log) a).2 = .stop := flow
      refine ⟨[a], .stopped, .of_stop flow rest, ?_, ?_⟩
      · rw [forEach, offer_of_stop flow]
        rfl
      · rw [forEach, offer_of_stop flowLogged, next]
        rfl

theorem forEach_offer_fst (accumulate : Visitor σ α) (sequence : List α) (acc : σ) :
    (forEach (offer accumulate) sequence acc).1 = accumulate.foldUntilStop acc sequence := by
  induction sequence generalizing acc with
  | nil => rfl
  | cons a rest ih =>
    simp only [forEach, offer, Visitor.foldUntilStop]
    cases accumulate acc a with
    | mk next flow =>
      cases flow with
      | proceed => exact ih next
      | stop => rfl

end Outcome

namespace Walk

variable {walk : Walk α} {sequence : List α}

def offered (walk : Walk α) (visit : Visitor σ α) (s : σ) : List α :=
  (walk.run visit.logged (s, [])).1.2

theorem Offers.receives (offers : walk.Offers sequence) (visit : Visitor σ α) (s : σ) :
    visit.Receives s sequence (walk.offered visit s) (walk.run visit s).2 ∧
      (walk.run visit s).1 = (walk.offered visit s).foldl visit.next s := by
  obtain ⟨offered, outcome, receives, ran, ranLogged⟩ := Outcome.exists_received visit sequence [] s
  have log : walk.offered visit s = offered := by
    rw [Walk.offered, offers visit.logged, ranLogged, List.nil_append]
  rw [log, offers visit s, ran]
  exact ⟨receives, rfl⟩

theorem Offers.fold_eq (offers : walk.Offers sequence) (accumulate : Visitor σ α) (acc : σ) :
    walk.fold accumulate acc = accumulate.foldUntilStop acc sequence := by
  rw [fold, offers accumulate acc, Outcome.forEach_offer_fst]

end Walk

end GenericTypes
