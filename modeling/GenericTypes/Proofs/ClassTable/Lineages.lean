import GenericTypes.Proofs.ClassTable.Ancestry
import GenericTypes.Proofs.ClassTable.Subtyping

namespace GenericTypes

/-- Whether a walk that includes its start visits it. -/
def Host.offersStart {H : Type} (host : Host H) (start : H) : Lineage → Bool
  | .chain => host.isProperClass start
  | .lattice => host.isInterface start
  | .all => host.isProperClass start || host.isInterface start

namespace ClassTable

variable {table : ClassTable} {name start upper : TypeName} {first : Option TypeName}
  {classes : List TypeName} {bound : Nat}

theorem isProperClass_of_array (array : name.isArray = true) :
    table.host.isProperClass name = true := by
  have interface : table.host.isInterface name = false := by
    simp [host, kind?, info?, array]
  have root : table.host.isRoot name = false := by
    rw [← Bool.not_eq_true, host_isRoot, superclass?_of_array array]
    simp
  exact Host.isProperClass_iff.mpr ⟨interface, root⟩

theorem Reachable.rank_lt_of_mem_chain (reachable : Reachable table)
    (chain : table.host.Chain first classes) (extended : table.superclass? name = first)
    (member : upper ∈ classes) : table.rank upper.element < table.rank name.element := by
  induction chain generalizing name with
  | unextended => cases member
  | apex _ => cases member
  | @proper lower above climbs _ ih =>
    have plain : name.isArray = false := by
      by_contra array
      rw [superclass?_of_array (by simpa using array)] at extended
      obtain rfl := Option.some.inj extended
      have declared := declares_of_info? reachable.info?_object
      simp [Host.isProperClass, (reachable.isRoot_iff declared).mpr rfl] at climbs
    have before := (reachable.superclass?_eq_some plain extended).1.rank_lt
    rcases List.mem_cons.mp member with rfl | member
    · exact before
    · exact (ih rfl member).trans before

theorem Reachable.chain_nodup (reachable : Reachable table)
    (chain : table.host.Chain first classes) : classes.Nodup := by
  induction chain with
  | unextended => exact List.nodup_nil
  | apex _ => exact List.nodup_nil
  | proper _ rest ih =>
    refine List.nodup_cons.mpr ⟨fun again => ?_, ih⟩
    exact Nat.lt_irrefl _ (reachable.rank_lt_of_mem_chain rest rfl again)

theorem Reachable.isInterface_of_ancestor (reachable : Reachable table)
    (ancestor : table.host.AncestorInterface name upper) : table.host.isInterface upper = true := by
  rw [host_isInterface]
  cases ancestor with
  | single direct => exact (reachable.mem_interfaces direct).2.2
  | tail _ direct => exact (reachable.mem_interfaces direct).2.2

/-- What lies above a type, as the walks find it: the superclasses in one list, and the interfaces
    in another, both without the type itself. -/
structure Ancestors (table : ClassTable) (start : TypeName) (bound : Nat)
    (superclasses interfaces : List TypeName) : Prop where
  chain : table.host.Chain (some start)
    ((if table.host.isProperClass start then [start] else []) ++ superclasses)
  short : ((if table.host.isProperClass start then [start] else []) ++ superclasses).length < bound
  mem_interfaces : ∀ upper, upper ∈ interfaces ↔
    table.host.isRoot start = false ∧ table.host.AncestorInterface start upper
  nodup_interfaces : interfaces.Nodup
  chain_offers : ∀ includeSelf, (table.host.superclassChain bound start includeSelf).Offers
    ((if includeSelf && table.host.isProperClass start then [start] else []) ++ superclasses)
  lattice_offers : ∀ includeSelf, (table.host.interfaceLattice bound start includeSelf).Offers
    ((if includeSelf && table.host.isInterface start then [start] else []) ++ interfaces)

theorem Reachable.exists_ancestors (reachable : Reachable table) (start : TypeName)
    (enough : table.walkBound ≤ bound) :
    ∃ superclasses interfaces, table.Ancestors start bound superclasses interfaces := by
  obtain ⟨classes, chain, short⟩ := reachable.exists_chain start
  obtain ⟨finite, few⟩ := reachable.ancestors_finite start
  obtain ⟨above, lattice, offers⟩ :=
    Host.exists_lattice_offers finite (few.trans_le enough) false
  obtain ⟨withSelf, latticeSelf, offersSelf⟩ :=
    Host.exists_lattice_offers finite (few.trans_le enough) true
  have climbs := chain.eq_start_append
  have descends :
      withSelf = (if table.host.isInterface start then [start] else []) ++ above := by
    cases root : table.host.isRoot start with
    | true =>
      have interface : table.host.isInterface start = false := by
        rw [← Bool.not_eq_true, host_isInterface]
        exact (host_isRoot.mp root).1
      simp [lattice.eq_nil_of_root root, latticeSelf.eq_nil_of_root root, interface]
    | false =>
      -- Both walks are first occurrences of an expansion, and no expansion comes back to its start.
      have acyclic := reachable.acyclicFrom start
      have firsts (includeSelf : Bool) :
          (table.host.interfaceLattice bound start includeSelf).toList =
            (table.host.expansion bound start includeSelf).sequence.eraseDups := by
        have keeps := acyclic.keepsFirstOccurrences root includeSelf
        exact (keeps.ended bound (keeps.finite finite bound (few.trans_le enough))).2
      calc withSelf = (table.host.interfaceLattice bound start true).toList :=
            offersSelf.follows.toList_eq.symm
        _ = (if table.host.isInterface start then [start] else []) ++
            (table.host.interfaceLattice bound start false).toList := by
          rw [firsts, firsts, Host.eraseDups_expansion_self acyclic]
        _ = (if table.host.isInterface start then [start] else []) ++ above := by
          rw [offers.follows.toList_eq]
  refine ⟨classes.tail, above, climbs ▸ chain, climbs ▸ short.trans_le enough, fun upper => ?_,
    lattice.nodup, fun includeSelf => ?_, fun includeSelf => ?_⟩
  · cases root : table.host.isRoot start with
    | true => simp [lattice.eq_nil_of_root root]
    | false => simpa using lattice.mem_iff (h := upper) root
  · have walks := chain.superclassChain_offers (short.trans_le enough) includeSelf
    cases includeSelf with
    | false => exact walks
    | true => simpa [← climbs] using walks
  · cases includeSelf with
    | false => simpa using offers
    | true => simpa [← descends] using offersSelf

namespace Ancestors

variable {superclasses interfaces : List TypeName}

theorem superclasses_of_not_proper (ancestors : table.Ancestors start bound superclasses interfaces)
    (stops : table.host.isProperClass start = false) : superclasses = [] := by
  have chain := ancestors.chain
  simp only [stops, Bool.false_eq_true, ↓reduceIte, List.nil_append] at chain
  cases chain with
  | apex _ => rfl
  | proper climbs _ => simp [stops] at climbs

theorem isProperClass_of_mem (ancestors : table.Ancestors start bound superclasses interfaces)
    (member : upper ∈ superclasses) : table.host.isProperClass upper = true :=
  ancestors.chain.proper_of_mem (List.mem_append_right _ member)

theorem start_not_mem_superclasses (ancestors : table.Ancestors start bound superclasses interfaces)
    (reachable : Reachable table) : start ∉ superclasses := by
  intro member
  have distinct := reachable.chain_nodup ancestors.chain
  rw [if_pos (ancestors.isProperClass_of_mem member)] at distinct
  exact (List.nodup_cons.mp distinct).1 member

theorem start_not_mem_interfaces (ancestors : table.Ancestors start bound superclasses interfaces)
    (reachable : Reachable table) : start ∉ interfaces := by
  intro member
  have ancestor := ((ancestors.mem_interfaces start).mp member).2
  exact Nat.lt_irrefl _ (reachable.rank_lt_of_ancestor ancestor)

theorem disjoint (ancestors : table.Ancestors start bound superclasses interfaces)
    (reachable : Reachable table) :
    superclasses.Disjoint interfaces := by
  intro upper isClass isInterface
  have notInterface := (Host.isProperClass_iff.mp (ancestors.isProperClass_of_mem isClass)).1
  have ancestor := ((ancestors.mem_interfaces upper).mp isInterface).2
  simp [reachable.isInterface_of_ancestor ancestor] at notInterface

def above (superclasses interfaces : List TypeName) : Lineage → List TypeName
  | .chain => superclasses
  | .lattice => interfaces
  | .all => superclasses ++ interfaces

theorem nodup (ancestors : table.Ancestors start bound superclasses interfaces)
    (reachable : Reachable table) (lineage : Lineage) :
    (start :: above superclasses interfaces lineage).Nodup := by
  have distinctClasses := (List.nodup_append.mp (reachable.chain_nodup ancestors.chain)).2.1
  have everything : (start :: (superclasses ++ interfaces)).Nodup := by
    refine List.nodup_cons.mpr ⟨fun again => ?_, ?_⟩
    · rcases List.mem_append.mp again with isClass | isInterface
      · exact ancestors.start_not_mem_superclasses reachable isClass
      · exact ancestors.start_not_mem_interfaces reachable isInterface
    · exact distinctClasses.append ancestors.nodup_interfaces (ancestors.disjoint reachable)
  cases lineage with
  | chain => exact everything.sublist ((List.sublist_append_left _ _).cons_cons start)
  | lattice => exact everything.sublist ((List.sublist_append_right _ _).cons_cons start)
  | all => exact everything

theorem lineage_offers (ancestors : table.Ancestors start bound superclasses interfaces)
    (includeSelf : Bool) (lineage : Lineage) :
    (table.host.lineage bound start includeSelf lineage).Offers
      ((if includeSelf && table.host.offersStart start lineage then [start] else []) ++
        above superclasses interfaces lineage) := by
  cases lineage with
  | chain => exact ancestors.chain_offers includeSelf
  | lattice => exact ancestors.lattice_offers includeSelf
  | all =>
    cases interface : table.host.isInterface start with
    | true =>
      have stops : table.host.isProperClass start = false := by
        simp [Host.isProperClass, interface]
      have offers := ancestors.lattice_offers includeSelf
      simpa [Host.lineage, Host.ancestors, Host.offersStart, above, interface, stops,
        ancestors.superclasses_of_not_proper stops] using offers
    | false =>
      have offers := (ancestors.chain_offers includeSelf).append (ancestors.lattice_offers false)
      simpa [Host.lineage, Host.ancestors, Host.offersStart, above, interface] using offers

theorem isSubtype (ancestors : table.Ancestors start bound superclasses interfaces)
    (reachable : Reachable table) (enough : table.walkBound ≤ bound)
    (member : upper ∈ start :: (superclasses ++ interfaces)) :
    table.host.isSubtype bound start upper = true := by
  rw [ancestors.chain.isSubtype_iff ancestors.short reachable.declaredTypes_closed
    (fun _ _ _ => reachable.interfaces_declared) (table.card_declaredTypes_lt.trans_le enough)]
  rcases List.mem_cons.mp member with rfl | member
  · exact .inl rfl
  · rcases List.mem_append.mp member with isClass | isInterface
    · exact .inr (.inr (.inl (List.mem_append_right _ isClass)))
    · obtain ⟨below, ancestor⟩ := (ancestors.mem_interfaces upper).mp isInterface
      exact .inr (.inr (.inr ⟨start, List.mem_cons_self, below, ancestor⟩))

end Ancestors

/-- For a class, an interface, an array or a handle that names nothing: no list of ancestors repeats
    a type or contains the start unasked; asked for, the start is put in front if it is one of the
    kind that the walk visits; all ancestors are the superclasses followed by the interfaces, two
    parts with nothing in common; and every ancestor is a supertype. -/
theorem lineage_puts_start_in_front (reachable : Reachable table) (start : TypeName)
    (enough : table.walkBound ≤ bound) :
    let listed := fun lineage includeSelf =>
      (table.host.lineage bound start includeSelf lineage).toList
    (∀ lineage includeSelf,
      (table.host.lineage bound start includeSelf lineage).outcome = .completed ∧
      (listed lineage includeSelf).Nodup) ∧
    (∀ lineage, start ∉ listed lineage false ∧
      listed lineage true =
        if table.host.offersStart start lineage then start :: listed lineage false
        else listed lineage false) ∧
    (start.isArray = true → table.host.offersStart start .chain = true) ∧
    (∀ includeSelf,
      (table.host.isInterface start = true →
        listed .all includeSelf = listed .lattice includeSelf) ∧
      (table.host.isInterface start = false →
        listed .all includeSelf = listed .chain includeSelf ++ listed .lattice false ∧
        (listed .chain includeSelf).Disjoint (listed .lattice false))) ∧
    ∀ includeSelf, ∀ sup ∈ listed .all includeSelf,
      table.host.isSubtype bound start sup = true := by
  intro listed
  obtain ⟨superclasses, interfaces, ancestors⟩ := reachable.exists_ancestors start enough
  have offers := ancestors.lineage_offers
  have lists (lineage : Lineage) (includeSelf : Bool) : listed lineage includeSelf =
      (if includeSelf && table.host.offersStart start lineage then [start] else []) ++
        Ancestors.above superclasses interfaces lineage :=
    (offers includeSelf lineage).follows.toList_eq
  have distinct := ancestors.nodup reachable
  have within (lineage : Lineage) (includeSelf : Bool) : (listed lineage includeSelf).Sublist
      (start :: Ancestors.above superclasses interfaces lineage) := by
    rw [lists]
    cases includeSelf && table.host.offersStart start lineage with
    | true => exact .refl _
    | false => exact List.sublist_cons_self _ _
  refine ⟨fun lineage includeSelf => ⟨?_, ?_⟩, fun lineage => ⟨?_, ?_⟩, isProperClass_of_array,
    fun includeSelf => ⟨fun interface => ?_, fun interface => ⟨?_, ?_⟩⟩,
    fun includeSelf sup member => ?_⟩
  · exact (offers includeSelf lineage).follows.outcome_eq
  · exact (distinct lineage).sublist (within lineage includeSelf)
  · rw [lists]
    exact (List.nodup_cons.mp (distinct lineage)).1
  · rw [lists, lists]
    cases table.host.offersStart start lineage <;> simp
  · simp [listed, Host.lineage, Host.ancestors, interface]
  · rw [lists, lists, lists]
    simp [Host.offersStart, Ancestors.above, interface]
  · intro upper inChain inLattice
    rw [lists] at inLattice
    rcases List.mem_cons.mp ((within .chain includeSelf).subset inChain) with rfl | isClass
    · exact ancestors.start_not_mem_interfaces reachable inLattice
    · exact ancestors.disjoint reachable isClass inLattice
  · exact ancestors.isSubtype reachable enough ((within .all includeSelf).subset member)

def harbour : ClassTable :=
  initial.attemptAll
    [⟨.interface, "Vessel", []⟩,
      ⟨.interface, "Ship", [.extending ⟨.plain "Vessel", none⟩]⟩,
      ⟨.plainClass, "Hull", []⟩,
      ⟨.plainClass, "Ferry",
        [.extending ⟨.plain "Hull", none⟩, .implementing ⟨.plain "Ship", none⟩]⟩]

theorem lineage_puts_ferry_in_front :
    let listed := fun lineage includeSelf =>
      (harbour.host.lineage 12 (.plain "Ferry") includeSelf lineage).toList
    Reachable harbour ∧ harbour.walkBound ≤ 12 ∧
      listed .all false = [.plain "Hull", .plain "Ship", .plain "Vessel"] ∧
      (listed .all true).Nodup ∧
      listed .all true = .plain "Ferry" :: listed .all false ∧
      listed .lattice true = listed .lattice false ∧
      listed .all true = listed .chain true ++ listed .lattice false ∧
      ∀ sup ∈ listed .all true,
        harbour.host.isSubtype 12 (.plain "Ferry") sup = true := by
  intro listed
  have reachable : Reachable harbour := Reachable.initial.attemptAll _
  have enough : harbour.walkBound ≤ 12 := by decide +kernel
  obtain ⟨ends, inFront, -, together, supertypes⟩ :=
    lineage_puts_start_in_front reachable (.plain "Ferry") enough
  have offersAll : harbour.host.offersStart (.plain "Ferry") .all = true := by decide +kernel
  have offersLattice : harbour.host.offersStart (.plain "Ferry") .lattice = false := by
    decide +kernel
  have isClass : harbour.host.isInterface (.plain "Ferry") = false := by decide +kernel
  refine ⟨reachable, enough, by decide +kernel, (ends .all true).2, ?_, ?_,
    ((together true).2 isClass).1, supertypes true⟩
  · exact (inFront .all).2.trans (if_pos offersAll)
  · exact (inFront .lattice).2.trans (if_neg (by simp [offersLattice]))

end ClassTable

end GenericTypes
