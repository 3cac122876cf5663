import GenericTypes.Proofs.Instantiate.WellFormed
import GenericTypes.Report.Basic
import GenericTypes.TypeName

namespace GenericTypes

namespace Host

variable {H : Type} {host : Host H} {raw : H} {owner : Option (TypeExpr H)}
  {args : List (TypeExpr H)} {given : TypeExpr H} {error : InstantiationError H}

def Misplaces (host : Host H) (raw : H) : TypeExpr H → Prop
  | .parameterized _ outer _ => host.enclosing raw ≠ some outer
  | _ => False

theorem Misplaces.shape (misplaces : host.Misplaces raw given) : given.shape = .parameterized := by
  cases given with
  | parameterized => rfl
  | nominal | wildcard | array | intersection => exact misplaces.elim

variable [DecidableEq H]

theorem resolveOwner_eq_error_iff :
    host.resolveOwner raw owner = .error error ↔ ∃ given, owner = some given ∧
      ((host.Misplaces raw given ∧ error = .ownerMismatch raw (host.enclosing raw) given) ∨
        (given.shape ≠ .parameterized ∧ error = .unsupportedOwner raw given)) := by
  rcases owner with - | given
  · simp [resolveOwner]
  · cases given with
    | nominal | wildcard | array | intersection =>
      simp [resolveOwner, Misplaces, TypeExpr.shape, eq_comm]
    | parameterized outerOwner outer outerArgs =>
      by_cases encloses : host.enclosing raw = some outer
      · simp [resolveOwner, Misplaces, TypeExpr.shape, encloses]
      · have misplaces : host.Misplaces raw (.parameterized outerOwner outer outerArgs) := encloses
        simp [resolveOwner, TypeExpr.shape, encloses, misplaces, eq_comm]

theorem instantiateIn_eq_error_iff :
    host.instantiateIn owner raw args = .error error ↔
      (args.length ≠ host.arity raw ∧
        error = .argumentCountMismatch raw (host.arity raw) args.length) ∨
      (args.length = host.arity raw ∧ ∃ given, owner = some given ∧
        ((host.Misplaces raw given ∧ error = .ownerMismatch raw (host.enclosing raw) given) ∨
          (given.shape ≠ .parameterized ∧ error = .unsupportedOwner raw given))) := by
  rw [← resolveOwner_eq_error_iff]
  unfold instantiateIn
  by_cases fits : args.length = host.arity raw
  · cases resolved : host.resolveOwner raw owner <;> simp [fits, Except.map]
  · simp [fits, eq_comm]

theorem argumentCountMismatch_iff {r : H} {expected actual : Nat} :
    host.instantiateIn owner raw args = .error (.argumentCountMismatch r expected actual) ↔
      args.length ≠ host.arity raw ∧
        r = raw ∧ expected = host.arity raw ∧ actual = args.length := by
  simp [instantiateIn_eq_error_iff]

theorem ownerMismatch_iff {r : H} {enclosing : Option H} :
    host.instantiateIn owner raw args = .error (.ownerMismatch r enclosing given) ↔
      args.length = host.arity raw ∧ owner = some given ∧ host.Misplaces raw given ∧
        r = raw ∧ enclosing = host.enclosing raw := by
  rw [instantiateIn_eq_error_iff]
  constructor
  · rintro (⟨-, ⟨⟩⟩ | ⟨fits, _, isGiven, ⟨misplaces, ⟨⟩⟩ | ⟨-, ⟨⟩⟩⟩)
    exact ⟨fits, isGiven, misplaces, rfl, rfl⟩
  · rintro ⟨fits, isGiven, misplaces, rfl, rfl⟩
    exact .inr ⟨fits, given, isGiven, .inl ⟨misplaces, rfl⟩⟩

theorem unsupportedOwner_iff {r : H} :
    host.instantiateIn owner raw args = .error (.unsupportedOwner r given) ↔
      args.length = host.arity raw ∧ owner = some given ∧ given.shape ≠ .parameterized ∧
        r = raw := by
  rw [instantiateIn_eq_error_iff]
  constructor
  · rintro (⟨-, ⟨⟩⟩ | ⟨fits, _, isGiven, ⟨-, ⟨⟩⟩ | ⟨other, ⟨⟩⟩⟩)
    exact ⟨fits, isGiven, other, rfl⟩
  · rintro ⟨fits, isGiven, other, rfl⟩
    exact .inr ⟨fits, given, isGiven, .inr ⟨other, rfl⟩⟩

theorem exists_instantiateIn_iff :
    (∃ t, host.instantiateIn owner raw args = .ok t) ↔
      args.length = host.arity raw ∧
        ∀ given ∈ owner, given.shape = .parameterized ∧ ¬ host.Misplaces raw given := by
  cases result : host.instantiateIn owner raw args with
  | error error =>
    refine iff_of_false (by simp) ?_
    rintro ⟨fits, admitted⟩
    rcases instantiateIn_eq_error_iff.mp result with
      ⟨differs, -⟩ | ⟨-, given, isGiven, ⟨misplaces, -⟩ | ⟨other, -⟩⟩
    · exact differs fits
    · exact (admitted given isGiven).2 misplaces
    · exact other (admitted given isGiven).1
  | ok t =>
    have faultless : ∀ error, host.instantiateIn owner raw args ≠ .error error := by simp [result]
    have fits := (instantiateIn_eq_ok_iff.mp result).1
    refine iff_of_true ⟨t, rfl⟩ ⟨fits, fun given isGiven => ⟨?_, fun misplaces => ?_⟩⟩
    · refine Decidable.byContradiction fun other => ?_
      exact faultless _ (unsupportedOwner_iff.mpr ⟨fits, isGiven, other, rfl⟩)
    · exact faultless _ (ownerMismatch_iff.mpr ⟨fits, isGiven, misplaces, rfl, rfl⟩)

/-- The two helps on a misplaced owner are different texts whatever the names are: if both were the
    same, the enclosing type would have a name of seven letters, and they end differently. -/
theorem topLevelHelp_ne (raw outer : String) :
    raw ++ " is a top-level type and takes no owner" ≠
      "the owner of " ++ raw ++ " must parameterize " ++ outer := by
  intro same
  have cut : " is a top-level type and takes no owner" =
      " is a top-lev" ++ "el type and takes no owner" := by decide
  rw [cut] at same
  have letters : (raw.toList ++ " is a top-lev".toList) ++ "el type and takes no owner".toList =
      ("the owner of ".toList ++ raw.toList) ++ (" must parameterize ".toList ++ outer.toList) := by
    simpa only [String.toList_append, List.append_assoc] using congrArg String.toList same
  have seven : outer.toList.length = 7 := by simpa using congrArg List.length letters
  have ending := List.append_inj_right' letters (by simp [seven])
  simp at ending

variable [Handle H]

/-- The report of a failure has the code of the check that failed, and says what the host has of the
    raw type. -/
structure ReportsTruly (host : Host H) (raw : H) (owner : Option (TypeExpr H))
    (args : List (TypeExpr H)) (error : InstantiationError H) : Prop where
  arity_code : error.code = "typegraph::arity" ↔ args.length ≠ host.arity raw
  mismatch_code : error.code = "typegraph::owner_mismatch" ↔
    args.length = host.arity raw ∧ ∃ given ∈ owner, host.Misplaces raw given
  unsupported_code : error.code = "typegraph::unsupported_owner" ↔
    args.length = host.arity raw ∧ ∃ given ∈ owner, given.shape ≠ .parameterized
  counts : error.code = "typegraph::arity" →
    error.message = "type parameter count mismatch of " ++ Handle.text raw ++ ": " ++
        toString args.length ++ " vs " ++ toString (host.arity raw) ∧
      error.help =
        Handle.text raw ++ " declares " ++ toString (host.arity raw) ++ " type parameter(s)"
  topLevel : error.code = "typegraph::owner_mismatch" →
    (error.help = Handle.text raw ++ " is a top-level type and takes no owner" ↔
      host.enclosing raw = none)
  nested : error.code = "typegraph::owner_mismatch" → ∀ outer, host.enclosing raw = some outer →
    error.help =
      "the owner of " ++ Handle.text raw ++ " must parameterize " ++ Handle.text outer

theorem reportsTruly (failed : host.instantiateIn owner raw args = .error error) :
    host.ReportsTruly raw owner args error := by
  rcases instantiateIn_eq_error_iff.mp failed with
    ⟨differs, rfl⟩ | ⟨fits, given, rfl, ⟨misplaces, rfl⟩ | ⟨other, rfl⟩⟩
  · exact
      { arity_code := iff_of_true rfl differs
        mismatch_code := iff_of_false (by simp [InstantiationError.code]) fun wrong =>
          differs wrong.1
        unsupported_code := iff_of_false (by simp [InstantiationError.code]) fun wrong =>
          differs wrong.1
        counts := fun _ => ⟨rfl, rfl⟩
        topLevel := by simp [InstantiationError.code]
        nested := by simp [InstantiationError.code] }
  · exact
      { arity_code := iff_of_false (by simp [InstantiationError.code]) fun wrong => wrong fits
        mismatch_code := iff_of_true rfl ⟨fits, given, rfl, misplaces⟩
        unsupported_code := by simp [InstantiationError.code, fits, misplaces.shape]
        counts := by simp [InstantiationError.code]
        topLevel := fun _ => by
          cases encloses : host.enclosing raw with
          | none => exact iff_of_true rfl rfl
          | some outer => exact iff_of_false (topLevelHelp_ne _ _).symm (by simp)
        nested := fun _ outer encloses => by
          rw [encloses]
          rfl }
  · have placed : ¬ host.Misplaces raw given := fun misplaces => other misplaces.shape
    exact
      { arity_code := iff_of_false (by simp [InstantiationError.code]) fun wrong => wrong fits
        mismatch_code := by simp [InstantiationError.code, placed]
        unsupported_code := iff_of_true rfl ⟨fits, given, rfl, other⟩
        counts := by simp [InstantiationError.code]
        topLevel := by simp [InstantiationError.code]
        nested := by simp [InstantiationError.code] }

/-- An instantiation fails at the first check that its input does not pass: the argument count, then
    the place of the owner, then its shape, and without a fault there is a result. A failure and its
    report say what the host has. With the count that a failure asks for the count is right, and
    where only the owner was wrong the same arguments are instantiated without an owner, and with
    any instantiation of the enclosing type for an owner. -/
theorem instantiateIn_failures (host : Host H) (raw : H) (owner : Option (TypeExpr H))
    (args : List (TypeExpr H)) :
    let result := host.instantiateIn owner raw args
    (∀ r expected actual, result = .error (.argumentCountMismatch r expected actual) ↔
      args.length ≠ host.arity raw ∧
        r = raw ∧ expected = host.arity raw ∧ actual = args.length) ∧
    (∀ r enclosing given, result = .error (.ownerMismatch r enclosing given) ↔
      args.length = host.arity raw ∧ owner = some given ∧ host.Misplaces raw given ∧
        r = raw ∧ enclosing = host.enclosing raw) ∧
    (∀ r given, result = .error (.unsupportedOwner r given) ↔
      args.length = host.arity raw ∧ owner = some given ∧ given.shape ≠ .parameterized ∧
        r = raw) ∧
    ((∃ t, result = .ok t) ↔ args.length = host.arity raw ∧
      ∀ given ∈ owner, given.shape = .parameterized ∧ ¬ host.Misplaces raw given) ∧
    (args ≠ [] → host.instantiate raw args = host.instantiateIn none raw args) ∧
    (∀ error, result = .error error → host.ReportsTruly raw owner args error) ∧
    (∀ r expected actual, result = .error (.argumentCountMismatch r expected actual) →
      ∀ anyOwner others, others.length = expected → ∀ r expected actual,
        host.instantiateIn anyOwner raw others ≠
          .error (.argumentCountMismatch r expected actual)) ∧
    ((∃ error, result = .error error ∧ error.code ≠ "typegraph::arity") →
      host.instantiateIn none raw args =
        .ok (.parameterized ((host.enclosing raw).map .nominal) raw args) ∧
      ∀ outer, host.enclosing raw = some outer → ∀ outerOwner outerArgs,
        let given := .parameterized outerOwner outer outerArgs
        host.instantiateIn (some given) raw args = .ok (.parameterized (some given) raw args)) := by
  intro result
  refine ⟨fun _ _ _ => argumentCountMismatch_iff, fun _ _ _ => ownerMismatch_iff,
    fun _ _ => unsupportedOwner_iff, exists_instantiateIn_iff, fun notEmpty => ?_,
    fun _ => reportsTruly, fun r expected actual failed anyOwner others length => ?_, ?_⟩
  · simp [Host.instantiate, notEmpty]
  · obtain ⟨-, -, rfl, -⟩ := argumentCountMismatch_iff.mp failed
    intro r expected actual again
    exact (argumentCountMismatch_iff.mp again).1 length
  · rintro ⟨error, failed, otherCode⟩
    have fits : args.length = host.arity raw := by
      refine Decidable.byContradiction fun differs => ?_
      exact otherCode ((reportsTruly failed).arity_code.mpr differs)
    refine ⟨instantiateIn_eq_ok_iff.mpr ⟨fits, _, rfl, rfl⟩, fun outer encloses _ _ => ?_⟩
    exact instantiateIn_eq_ok_iff.mpr ⟨fits, _, by simp [resolveOwner, encloses], rfl⟩

def atlas : Host TypeName where
  isInterface _ := true
  superclass _ := none
  interfaces _ := []
  enclosing name := if name = .plain "Map.Entry" then some (.plain "Map") else none
  arity name := if name = .plain "Map.Entry" then 1 else if name = .plain "Map" then 2 else 0
  arrayHandle := TypeName.array

theorem instantiateIn_failures_atlas :
    let entry : TypeName := .plain "Map.Entry"
    let owner : TypeExpr TypeName := .nominal (.plain "Map")
    let args : List (TypeExpr TypeName) := [.unbounded]
    atlas.instantiateIn (some owner) entry args = .error (.unsupportedOwner entry owner) ∧
      atlas.ReportsTruly entry (some owner) args (.unsupportedOwner entry owner) ∧
      atlas.instantiate entry args = .ok (.parameterized (some owner) entry args) := by
  intro entry owner args
  obtain ⟨-, -, unsupported, -, same, truly, -, repaired⟩ :=
    instantiateIn_failures atlas entry (some owner) args
  have failed := (unsupported entry owner).mpr ⟨rfl, rfl, by decide, rfl⟩
  have built := (repaired ⟨_, failed, by decide⟩).1
  exact ⟨failed, truly _ failed, (same (by decide)).trans built⟩

end Host

end GenericTypes
