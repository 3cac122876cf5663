import GenericTypes.Walk

namespace GenericTypes

variable {α σ : Type}

def Visitor.NeverStops (visit : Visitor σ α) : Prop :=
  ∀ s a, (visit s a).2 = .proceed

def Visitor.next (visit : Visitor σ α) (s : σ) (a : α) : σ := (visit s a).1

namespace Outcome

theorem offer_of_proceed {visit : Visitor σ α} {s : σ} {a : α}
    (proceeds : (visit s a).2 = .proceed) : offer visit s a = (visit.next s a, .completed) := by
  cases answer : visit s a with
  | mk next flow =>
    obtain rfl : flow = .proceed := by simpa [answer] using proceeds
    simp [offer, Visitor.next, answer]

theorem offer_of_stop {visit : Visitor σ α} {s : σ} {a : α}
    (stops : (visit s a).2 = .stop) : offer visit s a = (visit.next s a, .stopped) := by
  cases answer : visit s a with
  | mk next flow =>
    obtain rfl : flow = .stop := by simpa [answer] using stops
    simp [offer, Visitor.next, answer]

theorem andThen_assoc (result : σ × Outcome) (second third : σ → σ × Outcome) :
    andThen (andThen result second) third = andThen result fun s => andThen (second s) third := by
  obtain ⟨s, outcome⟩ := result
  cases outcome <;> rfl

theorem andThen_congr {result : σ × Outcome} {next other : σ → σ × Outcome}
    (same : ∀ s, result = (s, .completed) → next s = other s) :
    andThen result next = andThen result other := by
  obtain ⟨s, outcome⟩ := result
  cases outcome with
  | completed => exact same s rfl
  | stopped => rfl
  | unfinished => rfl

theorem forEach_congr {step other : σ → α → σ × Outcome} {sequence : List α}
    (same : ∀ a ∈ sequence, ∀ s, step s a = other s a) (s : σ) :
    forEach step sequence s = forEach other sequence s := by
  induction sequence generalizing s with
  | nil => rfl
  | cons a rest ih =>
    have sameRest : ∀ b ∈ rest, ∀ s, step s b = other s b :=
      fun b member => same b (List.mem_cons_of_mem _ member)
    rw [forEach, forEach, same a List.mem_cons_self]
    exact andThen_congr fun s _ => ih sameRest s

theorem forEach_append (step : σ → α → σ × Outcome) (left right : List α) (s : σ) :
    forEach step (left ++ right) s = andThen (forEach step left s) (forEach step right) := by
  induction left generalizing s with
  | nil => rfl
  | cons a rest ih =>
    simp only [List.cons_append, forEach, andThen_assoc]
    exact andThen_congr fun s _ => ih s

theorem forEach_offer_of_neverStops {visit : Visitor σ α} (goesOn : visit.NeverStops)
    (sequence : List α) (s : σ) :
    forEach (offer visit) sequence s = (sequence.foldl visit.next s, .completed) := by
  induction sequence generalizing s with
  | nil => rfl
  | cons a rest ih =>
    rw [forEach, offer_of_proceed (goesOn s a)]
    exact ih _

theorem forEach_offer_ne_unfinished (visit : Visitor σ α) (sequence : List α) (s : σ) :
    (forEach (offer visit) sequence s).2 ≠ .unfinished := by
  induction sequence generalizing s with
  | nil => simp [forEach]
  | cons a rest ih =>
    rw [forEach]
    cases flow : (visit s a).2 with
    | proceed =>
      rw [offer_of_proceed flow]
      exact ih _
    | stop =>
      rw [offer_of_stop flow]
      simp [andThen]

end Outcome

namespace Walk

/-- Every visitor is offered the elements of the sequence until it stops. -/
def Offers (walk : Walk α) (sequence : List α) : Prop :=
  ∀ ⦃σ : Type⦄ (visit : Visitor σ α) (s : σ),
    walk.run visit s = Outcome.forEach (Outcome.offer visit) sequence s

def Terminates (walk : Walk α) : Prop :=
  ∀ ⦃σ : Type⦄ (visit : Visitor σ α) (s : σ),
    (walk.run visit s).2 ≠ .unfinished ∧
      (visit.NeverStops → (walk.run visit s).2 = .completed)

variable {walk first second : Walk α} {sequence : List α}

theorem eq_of_run (same : ∀ {σ : Type} (visit : Visitor σ α) (s : σ),
    first.run visit s = second.run visit s) : first = second := by
  obtain ⟨run⟩ := first
  obtain ⟨otherRun⟩ := second
  congr 1
  funext σ visit s
  exact same visit s

theorem Offers.run_of_neverStops (offers : walk.Offers sequence) {visit : Visitor σ α}
    (goesOn : visit.NeverStops) (s : σ) :
    walk.run visit s = (sequence.foldl visit.next s, .completed) := by
  rw [offers visit s, Outcome.forEach_offer_of_neverStops goesOn]

theorem Offers.terminates (offers : walk.Offers sequence) : walk.Terminates := by
  intro σ visit s
  constructor
  · rw [offers visit s]
    exact Outcome.forEach_offer_ne_unfinished visit sequence s
  · intro goesOn
    rw [offers.run_of_neverStops goesOn]

theorem Offers.collect_eq {γ : Type} (offers : walk.Offers sequence) (insert : γ → α → γ)
    (container : γ) : walk.collect insert container = sequence.foldl insert container := by
  have goesOn : Visitor.NeverStops fun c (a : α) => (insert c a, Flow.proceed) := fun _ _ => rfl
  rw [collect, offers.run_of_neverStops goesOn]
  rfl

theorem Offers.append {before after : List α} (offersBefore : first.Offers before)
    (offersAfter : second.Offers after) : (first ++ second).Offers (before ++ after) := by
  intro σ visit s
  change Outcome.andThen (first.run visit s) (second.run visit) = _
  rw [Outcome.forEach_append, offersBefore visit s]
  exact Outcome.andThen_congr fun s _ => offersAfter visit s

end Walk

end GenericTypes
