import GenericTypes.Proofs.TypeExpr.Preorder

namespace GenericTypes.TypeExpr

variable {H : Type}

/-- One nominal leaf `h`, at any depth and in owners too, has become `k`. -/
inductive LeafReplaced (h k : H) : TypeExpr H → TypeExpr H → Prop where
  | leaf : LeafReplaced h k (nominal h) (nominal k)
  | owner {t u : TypeExpr H} {raw : H} {args : List (TypeExpr H)} (inside : LeafReplaced h k t u) :
      LeafReplaced h k (parameterized (some t) raw args) (parameterized (some u) raw args)
  | argument {owner : Option (TypeExpr H)} {raw : H} {t u : TypeExpr H}
      (before after : List (TypeExpr H)) (inside : LeafReplaced h k t u) :
      LeafReplaced h k (parameterized owner raw (before ++ t :: after))
        (parameterized owner raw (before ++ u :: after))
  | upper {lower : List (TypeExpr H)} {t u : TypeExpr H} (before after : List (TypeExpr H))
      (inside : LeafReplaced h k t u) :
      LeafReplaced h k (wildcard (before ++ t :: after) lower)
        (wildcard (before ++ u :: after) lower)
  | lower {upper : List (TypeExpr H)} {t u : TypeExpr H} (before after : List (TypeExpr H))
      (inside : LeafReplaced h k t u) :
      LeafReplaced h k (wildcard upper (before ++ t :: after))
        (wildcard upper (before ++ u :: after))
  | component {t u : TypeExpr H} (inside : LeafReplaced h k t u) :
      LeafReplaced h k (array t) (array u)
  | member {t u : TypeExpr H} (before after : List (TypeExpr H)) (inside : LeafReplaced h k t u) :
      LeafReplaced h k (intersection (before ++ t :: after)) (intersection (before ++ u :: after))

variable [DecidableEq H] {h k : H} {t u : TypeExpr H}

theorem forall_mentions_iff {P : H → Prop} :
    (∀ named ∈ t.mentions, P named) ↔
      (∀ named, t.handle? = some named → P named) ∧
        ∀ child ∈ t.children, ∀ named ∈ child.mentions, P named := by
  constructor
  · intro all
    exact ⟨fun named isOwn => all named (mem_mentions_iff_children.mpr (.inl isOwn)),
      fun child part named inside =>
        all named (mem_mentions_iff_children.mpr (.inr ⟨child, part, inside⟩))⟩
  · rintro ⟨own, parts⟩ named member
    rcases mem_mentions_iff_children.mp member with isOwn | ⟨child, part, inside⟩
    · exact own named isOwn
    · exact parts child part named inside

theorem LeafReplaced.forall_mentions_iff {P : H → Prop} (replaced : t.LeafReplaced h k u)
    (same : P k ↔ P h) : (∀ named ∈ u.mentions, P named) ↔ ∀ named ∈ t.mentions, P named := by
  induction replaced with
  | leaf => simpa [mem_mentions_nominal] using same
  | owner _ ih | argument _ _ _ ih | upper _ _ _ ih | lower _ _ _ ih | component _ ih
  | member _ _ _ ih =>
    rw [TypeExpr.forall_mentions_iff, TypeExpr.forall_mentions_iff]
    simp [handle?, children, or_imp, forall_and, ih]

theorem LeafReplaced.mem_mentions (replaced : t.LeafReplaced h k u) : k ∈ u.mentions := by
  induction replaced with
  | leaf => exact mem_mentions_nominal.mpr rfl
  | owner _ ih | argument _ _ _ ih | upper _ _ _ ih | lower _ _ _ ih | component _ ih
  | member _ _ _ ih =>
    exact mem_mentions_iff_children.mpr (.inr ⟨_, by simp [children], ih⟩)

end GenericTypes.TypeExpr
