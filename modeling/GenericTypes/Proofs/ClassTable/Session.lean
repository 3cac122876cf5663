import GenericTypes.Proofs.ClassTable.WellFormed

namespace GenericTypes

open ClassTable

/-- Tables side by side, and the expressions built so far. -/
structure Session where
  tables : List ClassTable
  stock : List (TypeExpr TypeName)

namespace Session

variable {session next : Session} {table : ClassTable} {name : TypeName} {t : TypeExpr TypeName}

def start : Session := ⟨[.initial], []⟩

/-- A handle and its arrays come from a table that declares the type. -/
def Mints (session : Session) (name : TypeName) : Prop :=
  ∃ table ∈ session.tables, table.declares name = true

/-- What one construction over one of the tables makes of the stock, or a table reports. -/
inductive Makes (session : Session) : TypeExpr TypeName → Prop where
  | nominal {h : TypeName} (minted : session.Mints h) : Makes session (.nominal h)
  | intersection {members : List (TypeExpr TypeName)} (parts : members ⊆ session.stock) :
      Makes session (.intersection members)
  | wildcard {upper lower : List (TypeExpr TypeName)} (uppers : upper ⊆ session.stock)
      (lowers : lower ⊆ session.stock) : Makes session (.wildcard upper lower)
  | arrayOf {table : ClassTable} {component : TypeExpr TypeName} (isTable : table ∈ session.tables)
      (part : component ∈ session.stock) : Makes session (table.host.arrayOf component)
  | instantiate {table : ClassTable} {raw : TypeName} {args : List (TypeExpr TypeName)}
      {t : TypeExpr TypeName} (isTable : table ∈ session.tables) (minted : session.Mints raw)
      (arguments : args ⊆ session.stock) (built : table.host.instantiate raw args = .ok t) :
      Makes session t
  | instantiateIn {table : ClassTable} {given : Option (TypeExpr TypeName)} {raw : TypeName}
      {args : List (TypeExpr TypeName)} {t : TypeExpr TypeName} (isTable : table ∈ session.tables)
      (minted : session.Mints raw) (owner : ∀ outer ∈ given, outer ∈ session.stock)
      (arguments : args ⊆ session.stock) (built : table.host.instantiateIn given raw args = .ok t) :
      Makes session t
  | reported {table : ClassTable} {name : TypeName} {t : TypeExpr TypeName}
      (isTable : table ∈ session.tables) (reported : table.Reports name t) : Makes session t

/-- A declaration takes its type arguments from the stock, whatever table they were built over. -/
inductive Step (session : Session) : Session → Prop where
  | create : Step session { session with tables := .initial :: session.tables }
  | copy {table : ClassTable} (isTable : table ∈ session.tables) :
      Step session { session with tables := table :: session.tables }
  | make {t : TypeExpr TypeName} (makes : session.Makes t) :
      Step session { session with stock := t :: session.stock }
  | declare {i : Nat} {table grown : ClassTable} {declaration : Declaration} {self : TypeName}
      (isTable : session.tables[i]? = some table) (arguments : declaration.args ⊆ session.stock)
      (declared : table.declare declaration = .ok (self, grown)) :
      Step session { session with tables := session.tables.set i grown }

inductive Reachable : Session → Prop where
  | start : Reachable .start
  | step {session next : Session} : Reachable session → Step session next → Reachable next

/-- A node that fits the declarations of some table. An empty instantiation without an owner need
    not: it is what every table makes of a raw type that it does not declare. -/
def Fits (session : Session) (node : TypeExpr TypeName) : Prop :=
  (∃ table ∈ session.tables, table.host.AdmitsNode node) ∨ ∃ raw, node = .parameterized none raw []

def GrowsTo (session next : Session) : Prop :=
  ∀ table ∈ session.tables, ∃ later ∈ next.tables, table.KeptIn later

theorem Mints.later (minted : session.Mints name) (grows : session.GrowsTo next) :
    next.Mints name := by
  obtain ⟨table, isTable, declared⟩ := minted
  obtain ⟨later, isLater, kept⟩ := grows table isTable
  exact ⟨later, isLater, kept.declares declared⟩

theorem Fits.later (fits : session.Fits t) (grows : session.GrowsTo next) : next.Fits t := by
  rcases fits with ⟨table, isTable, admits⟩ | empty
  · obtain ⟨later, isLater, kept⟩ := grows table isTable
    rcases kept.admitsNode admits with admits | empty
    · exact .inl ⟨later, isLater, admits⟩
    · exact .inr empty
  · exact .inr empty

structure Holds (session : Session) (P : TypeExpr TypeName → Prop) : Prop where
  stock : ∀ t ∈ session.stock, t.Throughout P
  reports : ∀ table ∈ session.tables, ∀ name t, table.Reports name t → t.Throughout P

theorem Holds.mono {P Q : TypeExpr TypeName → Prop} (holds : session.Holds P)
    (weaker : ∀ node, P node → Q node) : session.Holds Q :=
  ⟨fun t inStock node member => weaker node (holds.stock t inStock node member),
    fun table isTable name t reported node member =>
      weaker node (holds.reports table isTable name t reported node member)⟩

theorem Makes.throughout {P : TypeExpr TypeName → Prop} (makes : session.Makes t)
    (occupied : session.tables ≠ [])
    (admits : ∀ table ∈ session.tables, ∀ node, table.host.AdmitsNode node → P node)
    (holds : session.Holds P) : t.Throughout P := by
  obtain ⟨any, isAny⟩ := List.exists_mem_of_ne_nil _ occupied
  cases makes with
  | nominal => exact Host.nominal_throughout (admits any isAny) _
  | intersection parts =>
    exact TypeExpr.throughout_iff.mpr
      ⟨admits any isAny _ True.intro, fun child member => holds.stock child (parts member)⟩
  | wildcard uppers lowers =>
    refine TypeExpr.throughout_iff.mpr ⟨admits any isAny _ True.intro, fun child member => ?_⟩
    rcases List.mem_append.mp member with isUpper | isLower
    · exact holds.stock child (uppers isUpper)
    · exact holds.stock child (lowers isLower)
  | arrayOf isTable part => exact Host.arrayOf_throughout (admits _ isTable) (holds.stock _ part)
  | instantiate isTable _ arguments built =>
    exact Host.instantiate_throughout (admits _ isTable) built
      fun arg member => holds.stock arg (arguments member)
  | instantiateIn isTable _ owner arguments built =>
    exact Host.instantiateIn_throughout (admits _ isTable) built
      (fun outer member => holds.stock outer (owner outer member))
      fun arg member => holds.stock arg (arguments member)
  | reported isTable reported => exact holds.reports _ isTable _ _ reported

def MintsAll (session : Session) (t : TypeExpr TypeName) : Prop :=
  ∀ h ∈ t.mentions, session.Mints h

theorem mintsAll_of_children (own : ∀ h, t.handle? = some h → session.Mints h)
    (parts : ∀ child ∈ t.children, session.MintsAll child) : session.MintsAll t := by
  intro h mentioned
  rcases TypeExpr.mem_mentions_iff_children.mp mentioned with named | ⟨child, member, inside⟩
  · exact own h named
  · exact parts child member h inside

theorem mintsAll_nominal (minted : session.Mints name) : session.MintsAll (.nominal name) := by
  intro h mentioned
  rwa [TypeExpr.mem_mentions_nominal.mp mentioned]

theorem mintsAll_instantiateIn {given : Option (TypeExpr TypeName)} {raw : TypeName}
    {args : List (TypeExpr TypeName)} (reachable : table.Reachable)
    (isTable : table ∈ session.tables) (minted : session.Mints raw)
    (owner : ∀ outer ∈ given, session.MintsAll outer)
    (arguments : ∀ arg ∈ args, session.MintsAll arg)
    (built : table.host.instantiateIn given raw args = .ok t) : session.MintsAll t := by
  obtain ⟨-, resolved, isResolved, rfl⟩ := Host.instantiateIn_eq_ok_iff.mp built
  refine mintsAll_of_children (fun h named => by cases named; exact minted) fun child member => ?_
  rcases List.mem_append.mp member with isOwner | isArg
  · have isOwner := Option.mem_toList.mp isOwner
    rcases Host.resolveOwner_eq_ok_iff.mp isResolved with ⟨-, rfl⟩ | ⟨_, _, _, -, -, rfl⟩
    · obtain ⟨outer, encloses, rfl⟩ := Option.map_eq_some_iff.mp isOwner
      exact mintsAll_nominal ⟨table, isTable, reachable.declares_enclosing encloses⟩
    · exact owner child isOwner
  · exact arguments child isArg

theorem Makes.mintsAll (makes : session.Makes t)
    (reachable : ∀ table ∈ session.tables, table.Reachable)
    (stock : ∀ t ∈ session.stock, session.MintsAll t) : session.MintsAll t := by
  cases makes with
  | nominal minted => exact mintsAll_nominal minted
  | intersection parts =>
    exact mintsAll_of_children nofun fun child member => stock child (parts member)
  | wildcard uppers lowers =>
    refine mintsAll_of_children nofun fun child member => ?_
    rcases List.mem_append.mp member with isUpper | isLower
    · exact stock child (uppers isUpper)
    · exact stock child (lowers isLower)
  | @arrayOf _ component _ part =>
    have minted := stock component part
    -- The array of a nominal type is a nominal type, and of any other type a node above it.
    cases component with
    | nominal h => exact mintsAll_nominal (minted h (TypeExpr.mem_mentions_nominal.mpr rfl))
    | parameterized | wildcard | array | intersection =>
      refine mintsAll_of_children nofun fun child member => ?_
      obtain rfl := List.mem_singleton.mp member
      exact minted
  | instantiate isTable minted arguments built =>
    unfold Host.instantiate at built
    split at built
    · cases built
      exact mintsAll_nominal minted
    · exact mintsAll_instantiateIn (reachable _ isTable) isTable minted (by simp)
        (fun arg member => stock arg (arguments member)) built
  | instantiateIn isTable minted owner arguments built =>
    exact mintsAll_instantiateIn (reachable _ isTable) isTable minted
      (fun outer member => stock outer (owner outer member))
      (fun arg member => stock arg (arguments member)) built
  | reported isTable reported =>
    exact fun h mentioned =>
      ⟨_, isTable, (reachable _ isTable).mentionsDeclared reported h mentioned⟩

theorem Step.mem_tables (step : session.Step next) (isTable : table ∈ next.tables) :
    table = .initial ∨ table ∈ session.tables ∨
      ∃ earlier ∈ session.tables, ∃ declaration : Declaration,
        earlier.Accepts declaration.draft ∧ declaration.args ⊆ session.stock ∧
          table = earlier.extendedBy declaration.draft := by
  cases step with
  | create => exact (List.mem_cons.mp isTable).imp_right .inl
  | copy isCopied =>
    rcases List.mem_cons.mp isTable with rfl | isOld
    · exact .inr (.inl isCopied)
    · exact .inr (.inl isOld)
  | make => exact .inr (.inl isTable)
  | declare found arguments declared =>
    obtain ⟨accepted, -, rfl⟩ := declare_eq_ok_iff.mp declared
    rcases List.mem_or_eq_of_mem_set isTable with isOld | rfl
    · exact .inr (.inl isOld)
    · exact .inr (.inr ⟨_, List.mem_of_getElem? found, _, accepted, arguments, rfl⟩)

theorem Step.mem_stock (step : session.Step next) (inStock : t ∈ next.stock) :
    t ∈ session.stock ∨ (session.Makes t ∧ next.tables = session.tables) := by
  cases step with
  | create | copy | declare => exact .inl inStock
  | make makes =>
    rcases List.mem_cons.mp inStock with rfl | isOld
    · exact .inr ⟨makes, rfl⟩
    · exact .inl isOld

theorem Step.growsTo (step : session.Step next) : session.GrowsTo next := by
  intro table isTable
  cases step with
  | create | copy => exact ⟨table, List.mem_cons_of_mem _ isTable, KeptIn.refl table⟩
  | make => exact ⟨table, isTable, KeptIn.refl table⟩
  | @declare i old _ declaration _ found _ declared =>
    obtain ⟨accepted, -, rfl⟩ := declare_eq_ok_iff.mp declared
    obtain ⟨j, isAt⟩ := List.mem_iff_getElem?.mp isTable
    by_cases same : j = i
    · subst same
      obtain rfl : table = old := Option.some.inj (isAt.symm.trans found)
      have bound := (List.getElem?_eq_some_iff.mp isAt).1
      exact ⟨_, List.mem_set bound _, accepted.keptIn⟩
    · refine ⟨table, ?_, KeptIn.refl table⟩
      exact List.mem_of_getElem? ((List.getElem?_set_ne (Ne.symm same)).trans isAt)

theorem Step.alone (step : session.Step next) (occupied : session.tables ≠ [])
    (only : next.tables = [table]) :
    ∃ earlier, session.tables = [earlier] ∧ earlier.KeptIn table := by
  have fewer : session.tables.length ≤ next.tables.length := by
    cases step <;> simp
  have atLeastOne := List.length_pos_iff.mpr occupied
  have one : session.tables.length = 1 := by
    rw [only, List.length_singleton] at fewer
    omega
  obtain ⟨earlier, single⟩ := List.length_eq_one_iff.mp one
  obtain ⟨later, isLater, kept⟩ := step.growsTo earlier (by simp [single])
  rw [only, List.mem_singleton] at isLater
  exact ⟨earlier, single, isLater ▸ kept⟩

theorem Step.holds {P : TypeExpr TypeName → Prop} (step : session.Step next)
    (occupied : session.tables ≠ []) (reachable : ∀ table ∈ next.tables, table.Reachable)
    (admits : ∀ table ∈ next.tables, ∀ node, table.host.AdmitsNode node → P node)
    (holds : session.Holds P) : next.Holds P := by
  constructor
  · intro t inStock
    rcases step.mem_stock inStock with isOld | ⟨makes, same⟩
    · exact holds.stock t isOld
    · exact makes.throughout occupied (same ▸ admits) holds
  · intro table isTable name t reported
    rcases step.mem_tables isTable with
      rfl | isOld | ⟨earlier, isEarlier, declaration, accepted, arguments, rfl⟩
    · obtain rfl := reported.initial
      exact Host.nominal_throughout (admits _ isTable) _
    · exact holds.reports table isOld name t reported
    · rcases accepted.reports_extendedBy reported with isOld | stored
      · exact holds.reports earlier isEarlier name t isOld
      · have root := (reachable _ isTable).admits_reported reported
        refine TypeExpr.throughout_iff.mpr ⟨admits _ isTable t root, fun child part => ?_⟩
        rcases accepted.part_of_reported stored part with ⟨h, rfl⟩ | isArg
        · exact Host.nominal_throughout (admits _ isTable) h
        · exact holds.stock child (arguments isArg)

structure Sound (session : Session) : Prop where
  occupied : session.tables ≠ []
  reachable : ∀ table ∈ session.tables, table.Reachable
  minted : ∀ t ∈ session.stock, session.MintsAll t
  fits : session.Holds session.Fits
  alone : ∀ table, session.tables = [table] → session.Holds table.host.AdmitsNode

theorem start_holds {P : TypeExpr TypeName → Prop}
    (admits : ∀ node, ClassTable.initial.host.AdmitsNode node → P node) : start.Holds P := by
  refine ⟨nofun, fun table isTable name t reported => ?_⟩
  obtain rfl := List.mem_singleton.mp isTable
  obtain rfl := reported.initial
  exact Host.nominal_throughout admits _

theorem Sound.start : Sound .start := by
  refine ⟨List.cons_ne_nil _ _, ?_, nofun, ?_, ?_⟩
  · intro table isTable
    obtain rfl := List.mem_singleton.mp isTable
    exact .initial
  · exact start_holds fun _ admits => .inl ⟨_, List.mem_singleton_self _, admits⟩
  · intro table only
    obtain rfl := (List.cons.inj only).1
    exact start_holds fun _ => id

theorem Sound.holds_in_later {later : ClassTable} (sound : session.Sound)
    (single : session.tables = [table]) (kept : table.KeptIn later) :
    session.Holds later.host.AdmitsNode := by
  have holds := sound.alone table single
  constructor
  · intro t inStock
    refine (kept.wellFormed_iff fun h mentioned => ?_).mpr (holds.stock t inStock)
    obtain ⟨_, isTable, declares⟩ := sound.minted t inStock h mentioned
    rw [single, List.mem_singleton] at isTable
    exact isTable ▸ declares
  · intro other isOther name t reported
    have declared := (sound.reachable other isOther).mentionsDeclared reported
    have wellFormed := holds.reports other isOther name t reported
    rw [single, List.mem_singleton] at isOther
    subst isOther
    exact (kept.wellFormed_iff declared).mpr wellFormed

theorem Sound.step (sound : session.Sound) (step : session.Step next) : next.Sound := by
  have grows := step.growsTo
  have reachable : ∀ table ∈ next.tables, table.Reachable := by
    intro table isTable
    rcases step.mem_tables isTable with
      rfl | isOld | ⟨earlier, isEarlier, declaration, accepted, -, rfl⟩
    · exact .initial
    · exact sound.reachable table isOld
    · exact (sound.reachable earlier isEarlier).extendedBy accepted
  refine ⟨?_, reachable, ?_, ?_, ?_⟩
  · obtain ⟨table, isTable⟩ := List.exists_mem_of_ne_nil _ sound.occupied
    obtain ⟨later, isLater, -⟩ := grows table isTable
    exact List.ne_nil_of_mem isLater
  · intro t inStock h mentioned
    rcases step.mem_stock inStock with isOld | ⟨makes, -⟩
    · exact (sound.minted t isOld h mentioned).later grows
    · exact (makes.mintsAll sound.reachable sound.minted h mentioned).later grows
  · apply step.holds sound.occupied reachable
    · exact fun table isTable _ admits => .inl ⟨table, isTable, admits⟩
    · exact sound.fits.mono fun _ fits => fits.later grows
  · intro table only
    obtain ⟨earlier, single, kept⟩ := step.alone sound.occupied only
    apply step.holds sound.occupied reachable
    · intro other isOther node
      rw [only, List.mem_singleton] at isOther
      exact isOther ▸ id
    · exact sound.holds_in_later single kept

theorem Reachable.sound (reachable : Reachable session) : session.Sound := by
  induction reachable with
  | start => exact .start
  | step _ step ih => exact ih.step step

/-- A reported supertype fits its table on the outside, and every node of it fits some table of the
    session. Throughout it fits its own table where there is no other one, and else exactly if the
    declaration was given arguments that do. -/
theorem reported_fits (reachable : session.Reachable) (isTable : table ∈ session.tables) :
    (∀ name t, table.Reports name t →
      table.host.AdmitsNode t ∧ (∀ node ∈ t.nodes, session.Fits node) ∧
        (session.tables = [table] → table.host.WellFormed t)) ∧
    ∀ declaration self grown, table.declare declaration = .ok (self, grown) →
      ∀ declarations, let later := grown.attemptAll declarations
        (∀ t, later.Reports self t → later.host.WellFormed t) ↔
          ∀ arg ∈ declaration.args, grown.host.WellFormed arg := by
  have sound := reachable.sound
  have tableReachable := sound.reachable table isTable
  refine ⟨fun name t reported => ⟨?_, ?_, fun only => ?_⟩, ?_⟩
  · exact tableReachable.admits_reported reported
  · exact sound.fits.reports table isTable name t reported
  · exact (sound.alone table only).reports table isTable name t reported
  · intro declaration self grown declared declarations later
    obtain ⟨accepted, rfl, rfl⟩ := declare_eq_ok_iff.mp declared
    exact tableReachable.wellFormed_reports_iff accepted fun _ _ => info?_attemptAll declarations

theorem Reachable.declare (reachable : session.Reachable) (i : Nat) (declaration : Declaration)
    (isTable : session.tables[i]? = some table) (arguments : declaration.args ⊆ session.stock)
    (faultless : table.firstFault declaration.draft = none) :
    Reachable
      { session with tables := session.tables.set i (table.extendedBy declaration.draft) } := by
  have accepted := firstFault_eq_none_iff.mp faultless
  exact reachable.step (.declare isTable arguments (declare_eq_ok_iff.mpr ⟨accepted, rfl, rfl⟩))

def listDeclaration (params : Nat) : Declaration := ⟨.interface, "List", [.typeParams params]⟩

def comparableDeclaration : Declaration := ⟨.interface, "Comparable", [.typeParams 1]⟩

def listOfObject : TypeExpr TypeName :=
  .parameterized none (.plain "List") [.nominal .object]

def elementDeclaration : Declaration :=
  ⟨.plainClass, "A", [.implementing ⟨.plain "Comparable", some [listOfObject]⟩]⟩

def lists : ClassTable := ClassTable.initial.extendedBy (listDeclaration 1).draft

def comparables : ClassTable :=
  (ClassTable.initial.extendedBy (listDeclaration 2).draft).extendedBy comparableDeclaration.draft

def disagreeing : Session :=
  ⟨[lists, comparables.extendedBy elementDeclaration.draft], [listOfObject, .nominal .object]⟩

theorem disagreeing_reachable : disagreeing.Reachable := by
  have created : Reachable ⟨[.initial, .initial], []⟩ := Reachable.start.step .create
  have declared : Reachable ⟨[lists, .initial], []⟩ :=
    created.declare 0 (listDeclaration 1) rfl (List.nil_subset _) (by decide +kernel)
  have named : Reachable ⟨[lists, .initial], [.nominal .object]⟩ :=
    declared.step (.make (.nominal ⟨lists, List.mem_cons_self, by decide +kernel⟩))
  have built : lists.host.instantiate (.plain "List") [.nominal .object] = .ok listOfObject := rfl
  have instantiated : Reachable ⟨[lists, .initial], [listOfObject, .nominal .object]⟩ :=
    named.step (.make (.instantiate List.mem_cons_self
      ⟨lists, List.mem_cons_self, by decide +kernel⟩ (List.Subset.refl _) built))
  have other := instantiated.declare 1 (listDeclaration 2) rfl (List.nil_subset _)
    (by decide +kernel)
  have comparable := other.declare 1 comparableDeclaration rfl (List.nil_subset _)
    (by decide +kernel)
  exact comparable.declare 1 elementDeclaration rfl (by decide +kernel) (by decide +kernel)

theorem reported_fits_disagreeing :
    let table := comparables.extendedBy elementDeclaration.draft
    let reported : TypeExpr TypeName := .parameterized none (.plain "Comparable") [listOfObject]
    let further : Declaration :=
      ⟨.plainClass, "B", [.implementing ⟨.plain "Comparable", some [.nominal (.plain "B")]⟩]⟩
    disagreeing.Reachable ∧ table ∈ disagreeing.tables ∧ table.Reports (.plain "A") reported ∧
      table.host.AdmitsNode reported ∧ (∀ node ∈ reported.nodes, disagreeing.Fits node) ∧
      ∃ self grown, table.declare further = .ok (self, grown) ∧ ∀ declarations t,
        (grown.attemptAll declarations).Reports self t →
          (grown.attemptAll declarations).host.WellFormed t := by
  intro table reported further
  have isTable : table ∈ disagreeing.tables := List.mem_cons_of_mem _ List.mem_cons_self
  have isReported : table.Reports (.plain "A") reported := by decide +kernel
  have accepted : table.Accepts further.draft := firstFault_eq_none_iff.mp (by decide +kernel)
  have declared := declare_eq_ok_iff.mpr ⟨accepted, rfl, rfl⟩
  obtain ⟨reports, wellFormed⟩ := reported_fits disagreeing_reachable isTable
  obtain ⟨admits, fits, -⟩ := reports _ _ isReported
  refine ⟨disagreeing_reachable, isTable, isReported, admits, fits, _, _, declared, ?_⟩
  intro declarations
  apply (wellFormed _ _ _ declared declarations).mpr
  intro arg member
  obtain rfl := List.mem_singleton.mp member
  exact Host.wellFormed_nominal _

/-- The second table reports a list with one argument. -/
theorem disagreeing_reports_misfit :
    ¬ ∀ session : Session, session.Reachable → ∀ table ∈ session.tables, ∀ name t,
      table.Reports name t → ∀ owner raw args, .parameterized owner raw args ∈ t.nodes →
        args.length = table.typeParams raw ∧ table.host.AdmitsOwner raw owner := by
  intro always
  have isTable : comparables.extendedBy elementDeclaration.draft ∈ disagreeing.tables :=
    List.mem_cons_of_mem _ List.mem_cons_self
  obtain ⟨count, -⟩ := always disagreeing disagreeing_reachable _ isTable (.plain "A")
    (.parameterized none (.plain "Comparable") [listOfObject]) (by decide +kernel)
    none (.plain "List") [.nominal .object] (by decide +kernel)
  exact absurd count (by decide +kernel)

end Session

end GenericTypes
