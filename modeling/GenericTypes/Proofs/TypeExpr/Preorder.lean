import GenericTypes.Proofs.TypeExpr.Nodes
import GenericTypes.Proofs.Walk.Stopping
import Mathlib.Algebra.GroupWithZero.Nat
import Mathlib.Data.List.Basic
import Mathlib.Data.List.Induction

namespace GenericTypes.TypeExpr

variable {H σ : Type}

theorem visitStack_eq_forEach (visit : Visitor σ (TypeExpr H)) (s : σ) (stack : List (TypeExpr H)) :
    visitStack visit s stack =
      Outcome.forEach (Outcome.offer visit) (stack.flatMap nodes) s := by
  fun_induction visitStack visit s stack with
  | case1 s => rfl
  | case2 s t rest next answer =>
    have stops : (visit s t).2 = .stop := by rw [answer]
    rw [List.flatMap_cons, nodes_eq, List.cons_append, Outcome.forEach, Outcome.offer_of_stop stops,
      Visitor.next, answer]
    rfl
  | case3 s t rest next answer ih =>
    have proceeds : (visit s t).2 = .proceed := by rw [answer]
    rw [List.flatMap_cons, nodes_eq, List.cons_append, Outcome.forEach,
      Outcome.offer_of_proceed proceeds, Visitor.next, answer, ih, List.flatMap_append]
    rfl

theorem walk_offers (t : TypeExpr H) : t.walk.Offers t.nodes := by
  intro σ visit s
  show visitStack visit s [t] = _
  rw [visitStack_eq_forEach, List.flatMap_singleton]

theorem size_eq_length (t : TypeExpr H) : t.size = t.nodes.length := by
  have counted : ∀ (nodes : List (TypeExpr H)) (count : Nat),
      nodes.foldl (fun count _ => count + 1) count = count + nodes.length := by
    intro nodes
    induction nodes with
    | nil => exact fun _ => rfl
    | cons node rest ih =>
      intro count
      rw [List.foldl_cons, ih, List.length_cons]
      omega
  rw [size, t.walk_offers.collect_eq, counted, Nat.zero_add]

theorem size_eq (t : TypeExpr H) : t.size = 1 + (t.children.map size).sum := by
  have sizes : t.children.map size = t.children.map fun child => child.nodes.length :=
    List.map_congr_left fun child _ => child.size_eq_length
  rw [sizes, size_eq_length, t.nodes_eq, List.length_cons, List.length_flatMap, Nat.add_comm]

variable {h later : H} {t node : TypeExpr H} {sequence : List (TypeExpr H)}
  {listed : List H}

/-- At some place in the sequence a node has named the one handle, and none has named the other. -/
def NamedBefore (sequence : List (TypeExpr H)) (h later : H) : Prop :=
  ∃ before after, sequence = before ++ after ∧
    (∃ node ∈ before, node.Names h) ∧ ∀ node ∈ before, ¬ node.Names later

theorem not_namedBefore_self : ¬ NamedBefore sequence h h := by
  rintro ⟨before, after, -, ⟨node, member, names⟩, unnamed⟩
  exact unnamed node member names

theorem NamedBefore.append (named : NamedBefore sequence h later) (more : List (TypeExpr H)) :
    NamedBefore (sequence ++ more) h later := by
  obtain ⟨before, after, rfl, first, unnamed⟩ := named
  exact ⟨before, after ++ more, List.append_assoc before after more, first, unnamed⟩

/-- The list has the handles that the nodes name, in the order in which they are first named. -/
structure ListsNamed (sequence : List (TypeExpr H)) (listed : List H) : Prop where
  mem_iff : ∀ h, h ∈ listed ↔ ∃ node ∈ sequence, node.Names h
  ordered : listed.Pairwise (NamedBefore sequence)

theorem ListsNamed.nodup (lists : ListsNamed sequence listed) : listed.Nodup := by
  apply lists.ordered.imp
  rintro h _ named rfl
  exact not_namedBefore_self named

theorem ListsNamed.again (lists : ListsNamed sequence listed)
    (known : ∀ h, node.Names h → h ∈ listed) : ListsNamed (sequence ++ [node]) listed where
  mem_iff h := by
    simp only [List.mem_append, List.mem_singleton, or_and_right, exists_or, exists_eq_left]
    rw [← lists.mem_iff]
    exact ⟨Or.inl, fun either => either.elim id (known h)⟩
  ordered := lists.ordered.imp fun named => named.append [node]

theorem ListsNamed.fresh (lists : ListsNamed sequence listed) (names : node.Names h)
    (fresh : h ∉ listed) : ListsNamed (sequence ++ [node]) (listed ++ [h]) where
  mem_iff other := by
    simp only [List.mem_append, List.mem_singleton, or_and_right, exists_or, exists_eq_left]
    rw [← lists.mem_iff]
    apply or_congr_right
    constructor
    · rintro rfl
      exact names
    · exact names.unique
  ordered := by
    apply List.pairwise_append.mpr
    refine ⟨lists.ordered.imp fun named => named.append [node], List.pairwise_singleton _ h, ?_⟩
    intro other member later isLast
    obtain rfl := List.mem_singleton.mp isLast
    refine ⟨sequence, [node], rfl, (lists.mem_iff other).mp member, ?_⟩
    intro earlier inside named
    exact fresh ((lists.mem_iff later).mpr ⟨earlier, inside, named⟩)

variable [DecidableEq H]

def recordNamed (named : Visited H) (t : TypeExpr H) : Visited H :=
  match t.handle? with
  | some h => (named.record h).2
  | none => named

theorem recordNamed_of_none (named : Visited H) (silent : node.handle? = none) :
    recordNamed named node = named := by
  rw [recordNamed, silent]

theorem recordNamed_of_known {named : Visited H} (names : node.handle? = some h)
    (known : h ∈ named.handles) : recordNamed named node = named := by
  simp [recordNamed, names, Visited.record, known]

theorem recordNamed_of_fresh {named : Visited H} (names : node.handle? = some h)
    (fresh : h ∉ named.handles) : recordNamed named node = ⟨h :: named.handles⟩ := by
  simp [recordNamed, names, Visited.record, fresh]

theorem listsNamed_foldl_recordNamed (nodes : List (TypeExpr H)) :
    ListsNamed nodes (nodes.foldl recordNamed .empty).handles.reverse := by
  -- From the last node back: whether a handle is recorded depends on the nodes before it.
  induction nodes using List.reverseRecOn with
  | nil => exact ⟨fun h => by simp [Visited.empty], .nil⟩
  | append_singleton nodes node ih =>
    rw [List.foldl_append, List.foldl_cons, List.foldl_nil]
    cases names : node.handle? with
    | none =>
      rw [recordNamed_of_none _ names]
      apply ih.again
      intro h named
      rw [← handle?_eq_some_iff, names] at named
      cases named
    | some h =>
      have named := handle?_eq_some_iff.mp names
      by_cases known : h ∈ (nodes.foldl recordNamed .empty).handles
      · rw [recordNamed_of_known names known]
        apply ih.again
        intro other also
        rw [named.unique also, List.mem_reverse]
        exact known
      · rw [recordNamed_of_fresh names known, List.reverse_cons]
        apply ih.fresh named
        rwa [List.mem_reverse]

theorem mentions_eq (t : TypeExpr H) :
    t.mentions = (t.nodes.foldl recordNamed .empty).handles.reverse := by
  show (t.walk.collect recordNamed .empty).handles.reverse = _
  rw [t.walk_offers.collect_eq]

theorem mentions_listsNamed (t : TypeExpr H) : ListsNamed t.nodes t.mentions := by
  rw [mentions_eq]
  exact listsNamed_foldl_recordNamed t.nodes

/-- A search finds a handle where it is first named, and nothing new where it is named again. -/
theorem findSome?_mentions {β : Type} (find : H → Option β) (t : TypeExpr H) :
    t.mentions.findSome? find = t.nodes.findSome? fun node => node.handle?.bind find := by
  rw [mentions_eq]
  induction t.nodes using List.reverseRecOn with
  | nil => rfl
  | append_singleton nodes node ih =>
    rw [List.foldl_append, List.foldl_cons, List.foldl_nil, List.findSome?_append, ← ih]
    cases names : node.handle? with
    | none =>
      rw [recordNamed_of_none _ names]
      simp [names]
    | some h =>
      by_cases known : h ∈ (nodes.foldl recordNamed .empty).handles
      · rw [recordNamed_of_known names known]
        cases found : (nodes.foldl recordNamed .empty).handles.reverse.findSome? find with
        | some _ => rfl
        | none =>
          have missed := List.findSome?_eq_none_iff.mp found h (List.mem_reverse.mpr known)
          simp [names, missed]
      · rw [recordNamed_of_fresh names known, List.reverse_cons, List.findSome?_append]
        simp [names]

theorem mem_mentions_iff : h ∈ t.mentions ↔ ∃ node ∈ t.nodes, node.Names h :=
  t.mentions_listsNamed.mem_iff h

theorem mem_mentions_iff_children :
    h ∈ t.mentions ↔ t.handle? = some h ∨ ∃ child ∈ t.children, h ∈ child.mentions := by
  simp only [mem_mentions_iff, handle?_eq_some_iff, t.nodes_eq, List.exists_mem_cons_iff,
    List.mem_flatMap]
  apply or_congr_right
  constructor
  · rintro ⟨node, ⟨child, member, inside⟩, named⟩
    exact ⟨child, member, node, inside, named⟩
  · rintro ⟨child, member, node, inside, named⟩
    exact ⟨node, ⟨child, member, inside⟩, named⟩

theorem mem_mentions_nominal {other : H} : h ∈ (nominal other).mentions ↔ h = other := by
  rw [mem_mentions_iff_children]
  simp [handle?, children, eq_comm]

theorem mem_mentions_parameterized {owner : Option (TypeExpr H)} {raw : H}
    {args : List (TypeExpr H)} :
    h ∈ (parameterized owner raw args).mentions ↔
      h = raw ∨ (∃ outer ∈ owner, h ∈ outer.mentions) ∨ ∃ arg ∈ args, h ∈ arg.mentions := by
  rw [mem_mentions_iff_children]
  simp [handle?, children, eq_comm, or_and_right, exists_or]

/-- The walk on a stack is the recursive pre-order, whatever the visitor does: it is offered the
    shortest beginning of the nodes that it stops after, and all of them if there is none. So the
    size of a tree is one more than the sizes of its children, and what the tree mentions are the
    handles that its nodes name, each once and in the order of their first nodes. -/
theorem walk_visits_preorder (t : TypeExpr H) :
    t.nodes = t :: t.children.flatMap nodes ∧
    (∀ {σ : Type} (visit : Visitor σ (TypeExpr H)) (s : σ),
      visit.Receives s t.nodes (t.walk.offered visit s) (t.walk.run visit s).2 ∧
      ((t.walk.run visit s).2 = .stopped ↔
        ∃ beginning, beginning <+: t.walk.offered visit s ∧ visit.StopsAfter s beginning) ∧
      (t.walk.run visit s).1 = (t.walk.offered visit s).foldl visit.next s) ∧
    t.size = 1 + (t.children.map size).sum ∧
    t.mentions.Nodup ∧
    (∀ h, h ∈ t.mentions ↔ ∃ node ∈ t.nodes, node.Names h) ∧
    t.mentions.Pairwise (NamedBefore t.nodes) := by
  have lists := t.mentions_listsNamed
  refine ⟨t.nodes_eq, fun visit s => ?_, t.size_eq, lists.nodup, fun h => mem_mentions_iff,
    lists.ordered⟩
  obtain ⟨receives, final⟩ := t.walk_offers.receives visit s
  exact ⟨receives, receives.stopped_iff, final⟩

end GenericTypes.TypeExpr
