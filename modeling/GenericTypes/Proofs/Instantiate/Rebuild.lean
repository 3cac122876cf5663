import GenericTypes.Proofs.Instantiate.WellFormed

namespace GenericTypes

variable {H : Type}

theorem bind_eq_ok_iff {ε α β : Type} {x : Except ε α} {f : α → Except ε β} {b : β} :
    (x >>= f) = .ok b ↔ ∃ a, x = .ok a ∧ f a = .ok b := by
  cases x with
  | error e => exact iff_of_false (fun failed => by cases failed) (by simp)
  | ok a => exact ⟨fun built => ⟨a, rfl, built⟩, fun ⟨_, same, built⟩ => by cases same; exact built⟩

namespace Host

variable [DecidableEq H] {host : Host H}

mutual

def rebuild (host : Host H) : TypeExpr H → Except (InstantiationError H) (TypeExpr H)
  | .nominal h => .ok (.nominal h)
  | .parameterized owner raw args => do
    let owner ← rebuildOwner host owner
    let args ← rebuildAll host args
    host.instantiateIn owner raw args
  | .wildcard upper lower => do
    let upper ← rebuildAll host upper
    let lower ← rebuildAll host lower
    .ok (.wildcard upper lower)
  | .array component => do
    let component ← rebuild host component
    .ok (host.arrayOf component)
  | .intersection members => do
    let members ← rebuildAll host members
    .ok (.intersection members)
termination_by structural t => t

/-- A nominal owner is never given, because it is the default. -/
def rebuildOwner (host : Host H) :
    Option (TypeExpr H) → Except (InstantiationError H) (Option (TypeExpr H))
  | none => .ok none
  | some (.nominal _) => .ok none
  | some owner => do
    let owner ← rebuild host owner
    .ok (some owner)
termination_by structural owner => owner

def rebuildAll (host : Host H) :
    List (TypeExpr H) → Except (InstantiationError H) (List (TypeExpr H))
  | [] => .ok []
  | t :: rest => do
    let t ← rebuild host t
    let rest ← rebuildAll host rest
    .ok (t :: rest)
termination_by structural ts => ts

end

def RebuildsConstructibly (host : Host H) (t : TypeExpr H) : Prop :=
  ∀ built, host.rebuild t = .ok built → host.Constructible built

theorem rebuildAll_constructible {ts built : List (TypeExpr H)}
    (parts : ∀ t ∈ ts, host.RebuildsConstructibly t) (rebuilt : host.rebuildAll ts = .ok built) :
    ∀ t ∈ built, host.Constructible t := by
  induction ts generalizing built with
  | nil =>
    cases rebuilt
    simp
  | cons t rest ih =>
    obtain ⟨first, firstBuilt, rebuilt⟩ := bind_eq_ok_iff.mp rebuilt
    obtain ⟨others, othersBuilt, rebuilt⟩ := bind_eq_ok_iff.mp rebuilt
    cases rebuilt
    obtain ⟨head, tail⟩ := List.forall_mem_cons.mp parts
    exact List.forall_mem_cons.mpr ⟨head first firstBuilt, ih tail othersBuilt⟩

theorem rebuildOwner_constructible {owner built : Option (TypeExpr H)}
    (parts : ∀ outer ∈ owner, host.RebuildsConstructibly outer)
    (rebuilt : host.rebuildOwner owner = .ok built) :
    ∀ outer ∈ built, host.Constructible outer := by
  rcases owner with - | owner
  · cases rebuilt
    simp
  · cases owner with
    | nominal h =>
      cases rebuilt
      simp
    | parameterized | wildcard | array | intersection =>
      obtain ⟨outer, outerBuilt, rebuilt⟩ := bind_eq_ok_iff.mp rebuilt
      cases rebuilt
      simpa using parts _ rfl outer outerBuilt

theorem rebuild_constructible (t : TypeExpr H) : host.RebuildsConstructibly t := by
  induction t using TypeExpr.children_induction with
  | step t parts =>
    intro built rebuilt
    cases t with
    | nominal h =>
      cases rebuilt
      exact .nominal h
    | parameterized owner raw args =>
      obtain ⟨outer, outerBuilt, rebuilt⟩ := bind_eq_ok_iff.mp rebuilt
      obtain ⟨arguments, argumentsBuilt, rebuilt⟩ := bind_eq_ok_iff.mp rebuilt
      refine .instantiateIn (rebuildOwner_constructible (fun outer member => ?_) outerBuilt)
        (rebuildAll_constructible (fun arg member => ?_) argumentsBuilt) rebuilt
      · exact parts outer (List.mem_append_left _ (Option.mem_toList.mpr member))
      · exact parts arg (List.mem_append_right _ member)
    | wildcard upper lower =>
      obtain ⟨uppers, uppersBuilt, rebuilt⟩ := bind_eq_ok_iff.mp rebuilt
      obtain ⟨lowers, lowersBuilt, rebuilt⟩ := bind_eq_ok_iff.mp rebuilt
      cases rebuilt
      refine .wildcard (rebuildAll_constructible (fun bound member => ?_) uppersBuilt)
        (rebuildAll_constructible (fun bound member => ?_) lowersBuilt)
      · exact parts bound (List.mem_append_left _ member)
      · exact parts bound (List.mem_append_right _ member)
    | array component =>
      obtain ⟨part, partBuilt, rebuilt⟩ := bind_eq_ok_iff.mp rebuilt
      cases rebuilt
      exact .arrayOf (parts component (List.mem_singleton_self _) part partBuilt)
    | intersection members =>
      obtain ⟨rebuiltMembers, membersBuilt, rebuilt⟩ := bind_eq_ok_iff.mp rebuilt
      cases rebuilt
      exact .intersection (rebuildAll_constructible parts membersBuilt)

theorem rebuildAll_eq_ok {ts : List (TypeExpr H)} (same : ∀ t ∈ ts, host.rebuild t = .ok t) :
    host.rebuildAll ts = .ok ts := by
  induction ts with
  | nil => rfl
  | cons t rest ih =>
    obtain ⟨head, tail⟩ := List.forall_mem_cons.mp same
    exact bind_eq_ok_iff.mpr ⟨t, head, bind_eq_ok_iff.mpr ⟨rest, ih tail, rfl⟩⟩

theorem rebuildOwner_resolves {owner : Option (TypeExpr H)} {raw : H}
    (admits : host.AdmitsOwner raw owner) (same : ∀ outer ∈ owner, host.rebuild outer = .ok outer) :
    ∃ given, host.rebuildOwner owner = .ok given ∧ host.resolveOwner raw given = .ok owner := by
  rcases owner with - | owner
  · have alone : host.enclosing raw = none := admits
    exact ⟨none, rfl, by simp [resolveOwner, alone]⟩
  · cases owner with
    | nominal outer =>
      have encloses : host.enclosing raw = some outer := admits
      exact ⟨none, rfl, by simp [resolveOwner, encloses]⟩
    | parameterized outerOwner outer outerArgs =>
      have encloses : host.enclosing raw = some outer := admits
      exact ⟨_, bind_eq_ok_iff.mpr ⟨_, same _ rfl, rfl⟩, by simp [resolveOwner, encloses]⟩
    | wildcard | array | intersection => exact admits.elim

theorem WellFormed.rebuild_eq_ok {t : TypeExpr H} (wellFormed : host.WellFormed t) :
    host.rebuild t = .ok t := by
  induction t using TypeExpr.children_induction with
  | step t parts =>
    have rebuilds : ∀ child ∈ t.children, host.rebuild child = .ok child := fun child member =>
      parts child member ((wellFormed_iff.mp wellFormed).2 child member)
    cases t with
    | nominal h => rfl
    | parameterized owner raw args =>
      obtain ⟨arity, admits, -, -⟩ := wellFormed_parameterized_iff.mp wellFormed
      obtain ⟨given, givenBuilt, resolved⟩ := rebuildOwner_resolves admits fun outer member =>
        rebuilds outer (List.mem_append_left _ (Option.mem_toList.mpr member))
      have argumentsBuilt : host.rebuildAll args = .ok args := rebuildAll_eq_ok fun arg member =>
        rebuilds arg (List.mem_append_right _ member)
      have built := instantiateIn_eq_ok_iff.mpr ⟨arity, owner, resolved, rfl⟩
      exact bind_eq_ok_iff.mpr ⟨given, givenBuilt,
        bind_eq_ok_iff.mpr ⟨args, argumentsBuilt, built⟩⟩
    | wildcard upper lower =>
      have uppersBuilt : host.rebuildAll upper = .ok upper := rebuildAll_eq_ok fun bound member =>
        rebuilds bound (List.mem_append_left _ member)
      have lowersBuilt : host.rebuildAll lower = .ok lower := rebuildAll_eq_ok fun bound member =>
        rebuilds bound (List.mem_append_right _ member)
      exact bind_eq_ok_iff.mpr ⟨upper, uppersBuilt,
        bind_eq_ok_iff.mpr ⟨lower, lowersBuilt, rfl⟩⟩
    | array component =>
      obtain ⟨structural, -⟩ := wellFormed_array_iff.mp wellFormed
      have partBuilt := rebuilds component (List.mem_singleton_self _)
      exact bind_eq_ok_iff.mpr ⟨component, partBuilt,
        congrArg Except.ok (arrayOf_eq_array structural)⟩
    | intersection members =>
      exact bind_eq_ok_iff.mpr ⟨members, rebuildAll_eq_ok rebuilds, rfl⟩

/-- The constructions make exactly the well-formed expressions, and each of them can be taken apart
    and rebuilt. -/
theorem constructible_iff_wellFormed (host : Host H) (t : TypeExpr H) :
    (host.Constructible t ↔ host.WellFormed t) ∧ (host.rebuild t = .ok t ↔ host.WellFormed t) ∧
      ∀ built, host.rebuild t = .ok built → host.Constructible built := by
  have constructs := host.rebuild_constructible t
  refine ⟨⟨Constructible.wellFormed, fun wellFormed => ?_⟩,
    ⟨fun rebuilt => ?_, WellFormed.rebuild_eq_ok⟩, constructs⟩
  · exact constructs t wellFormed.rebuild_eq_ok
  · exact (constructs t rebuilt).wellFormed

end Host

end GenericTypes
