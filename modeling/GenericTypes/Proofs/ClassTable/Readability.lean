import GenericTypes.Proofs.ClassTable.LegibleNames

namespace GenericTypes

namespace ClassTable

open TypeExpr

variable {table : ClassTable} {t u : TypeExpr TypeName} {h raw raw' : TypeName}
  {args upper lower upper' lower' ts us : List (TypeExpr TypeName)} {before before' : List Char}

def openers : List Char := ['<', ',', ' ']

theorem openers_subset : openers ⊆ delimiters := by
  decide

def OpensType (before : List Char) : Prop :=
  before = [] ∨ Ends (· ∈ openers) before

def OpensArgument (before : List Char) : Prop :=
  Ends (· ∈ ['<', ',']) before

theorem OpensType.delimited (opens : OpensType before) : Delimited before :=
  opens.imp_right fun ends => ends.imp fun _ opens => openers_subset opens

theorem OpensType.ne_closed (opens : OpensType before) (more : List Char) :
    before ≠ more ++ ['>'] := by
  have closed := (Ends.singleton (P := (· = '>')) rfl).append more
  rcases opens with rfl | ends
  · simp
  · exact ends.ne closed fun c opens => by rintro rfl; exact absurd opens (by decide)

theorem opensType_of_space (spaced : Ends (· = ' ') before) : OpensType before :=
  .inr (spaced.imp (by rintro _ rfl; decide))

theorem OpensArgument.opensType (opens : OpensArgument before) : OpensType before :=
  .inr (opens.imp fun c => by simp only [openers, List.mem_cons]; tauto)

/-- An ordinary type is read behind whatever opens it. -/
def Reads (table : ClassTable) (t : TypeExpr TypeName) : Prop :=
  ReadAs table.Ordinary OpensType t

/-- A wildcard is read behind an angle bracket or a comma. -/
def ReadsArgument (table : ClassTable) (t : TypeExpr TypeName) : Prop :=
  ReadAs table.OrdinaryArgument OpensArgument t

theorem Ordinary.ends (names : table.LegibleNames) (ordinary : table.Ordinary t) :
    Ends (fun c => c ∉ openers ∧ c ≠ '?') t.text.toList := by
  cases t with
  | nominal h =>
    refine (names.declared h ordinary.node).ends.imp fun c apart => ⟨?_, ?_⟩
    · exact fun opens => apart (openers_subset opens)
    · rintro rfl
      exact apart (by decide)
  | parameterized owner raw args =>
    rw [toList_text_parameterized]
    exact (Ends.singleton (by decide)).append _
  | array component =>
    rw [toList_text_array]
    exact Ends.append _ ⟨']', rfl, by decide⟩
  | wildcard => exact absurd rfl ordinary.noWildcard
  | intersection => exact ordinary.node.elim

theorem Ordinary.exists_closing (ordinary : table.Ordinary t) (structural : ∀ h, t ≠ .nominal h) :
    ∃ inside dims, t.text.toList = inside ++ ['>'] ++ TypeName.brackets dims := by
  induction t using children_induction with
  | step t ih =>
    cases t with
    | nominal h => exact absurd rfl (structural h)
    | parameterized owner raw args =>
      exact ⟨_, 0, (toList_text_parameterized ..).trans (List.append_nil _).symm⟩
    | array component =>
      obtain ⟨inside, dims, same⟩ := ih component (List.mem_singleton_self _) ordinary.component
        (Host.wellFormed_array_iff.mp ordinary.wellFormed).1
      exact ⟨inside, dims + 1, by rw [toList_text_array, same, TypeName.brackets_succ,
        List.append_assoc]⟩
    | wildcard => exact absurd rfl ordinary.noWildcard
    | intersection => exact ordinary.node.elim

theorem nominal_ne_structural (legible : h.Legible) (opens : OpensType before)
    (ordinary : table.Ordinary t) (structural : ∀ h, t ≠ .nominal h) :
    before ++ h.text.toList ≠ before' ++ t.text.toList := by
  intro same
  obtain ⟨inside, dims, closing⟩ := ordinary.exists_closing structural
  rw [closing, ← List.append_assoc, ← List.append_assoc] at same
  obtain ⟨closed, -⟩ := read_name opens.delimited (delimited_closed _) legible.not_delimiters
    TypeName.brackets_not_delimiters same
  exact opens.ne_closed _ closed

theorem reads_nominal (names : table.LegibleNames) (declared : table.declares h = true) :
    table.Reads (.nominal h) := by
  intro u before before' ordinary opens opens' same
  have legible := names.declared h declared
  rcases u.nominal_or_structural with ⟨k, rfl⟩ | structural
  · have legible' := names.declared k ordinary.node
    obtain ⟨start, texts⟩ := read_name opens.delimited opens'.delimited legible.not_delimiters
      legible'.not_delimiters same
    exact ⟨start, congrArg _ (legible.eq_of_text legible' texts)⟩
  · exact absurd same (nominal_ne_structural legible opens ordinary structural)

theorem array_ne_parameterized {component : TypeExpr TypeName}
    {owner : Option (TypeExpr TypeName)} : before ++ (array component).text.toList ≠
      before' ++ (parameterized owner raw args).text.toList := by
  have bracket : Ends (· = ']') ['[', ']'] := ⟨']', rfl, rfl⟩
  have angle : Ends (· = '>') ['>'] := .singleton rfl
  rw [toList_text_array, toList_text_parameterized]
  exact ((bracket.append _).append _).ne ((angle.append _).append _) (by rintro _ rfl; decide)

theorem reads_array (names : table.LegibleNames) {component : TypeExpr TypeName}
    (ordinary : table.Ordinary (.array component)) (reads : table.Reads component) :
    table.Reads (.array component) := by
  intro u before before' ordinary' opens opens' same
  cases u with
  | nominal k =>
    have legible := names.declared k ordinary'.node
    exact absurd same.symm (nominal_ne_structural legible opens' ordinary nofun)
  | parameterized owner raw args =>
    exact absurd same array_ne_parameterized
  | array component' =>
    rw [toList_text_array, toList_text_array, ← List.append_assoc, ← List.append_assoc,
      List.append_left_inj] at same
    obtain ⟨start, rfl⟩ := reads component' _ _ ordinary'.component opens opens' same
    exact ⟨start, rfl⟩
  | wildcard => exact absurd rfl ordinary'.noWildcard
  | intersection => exact ordinary'.node.elim

section Paths

variable {owner owner' : Option (TypeExpr TypeName)} {args' : List (TypeExpr TypeName)}

theorem toList_pathText_some (owner : TypeExpr TypeName) (raw : TypeName) :
    (pathText (some owner) raw).toList = owner.text.toList ++ '.' :: raw.simpleName.toList := by
  simp [pathText, Handle.simpleName]

theorem name_ne_path_in {further : Option (TypeExpr TypeName)} {outer : TypeName}
    (legible : raw.Legible) (legible' : raw'.Legible) (opens : OpensType before) :
    before ++ raw.text.toList ≠
      before' ++ (pathText (some (.parameterized further outer args)) raw').toList := by
  intro same
  rw [toList_pathText_some, toList_text_parameterized, ← List.append_assoc, ← List.append_assoc]
    at same
  obtain ⟨closed, -⟩ := read_name opens.delimited (delimited_closed _) legible.not_delimiters
    legible'.dotted_not_delimiters same
  exact opens.ne_closed _ closed

theorem read_path (reachable : Reachable table) (names : table.LegibleNames)
    (ordinary : table.OrdinaryArgument (.parameterized owner raw args))
    (ordinary' : table.OrdinaryArgument (.parameterized owner' raw' args'))
    (reads : ∀ outer ∈ owner, table.Reads outer) (opens : OpensType before)
    (opens' : OpensType before')
    (same : before ++ (pathText owner raw).toList = before' ++ (pathText owner' raw').toList) :
    before = before' ∧ owner = owner' ∧ raw = raw' := by
  have legible := names.declared raw ordinary.node
  have legible' := names.declared raw' ordinary'.node
  -- On either side the path is a qualified name, or it goes on behind the arguments of an owner.
  rcases ordinary.path reachable names with
      ⟨default, named⟩ | ⟨further, outer, outerArgs, rfl, -, nested⟩ <;>
    rcases ordinary'.path reachable names with
      ⟨default', named'⟩ | ⟨further', outer', outerArgs', rfl, ordinaryOwner, nested'⟩
  · rw [named, named'] at same
    obtain ⟨start, texts⟩ := read_name opens.delimited opens'.delimited legible.not_delimiters
      legible'.not_delimiters same
    obtain rfl := legible.eq_of_text legible' texts
    exact ⟨start, default.trans default'.symm, rfl⟩
  · rw [named] at same
    exact absurd same (name_ne_path_in legible legible' opens)
  · rw [named'] at same
    exact absurd same.symm (name_ne_path_in legible' legible opens')
  · rw [toList_pathText_some, toList_pathText_some, ← List.append_assoc, ← List.append_assoc]
      at same
    have delimited : ∀ before owner outer args, Delimited
        (before ++ (parameterized owner outer args : TypeExpr TypeName).text.toList) := by
      intro before owner outer args
      rw [toList_text_parameterized, ← List.append_assoc]
      exact delimited_closed _
    obtain ⟨owners, simple⟩ := read_name (delimited ..) (delimited ..) legible.dotted_not_delimiters
      legible'.dotted_not_delimiters same
    obtain ⟨start, equal⟩ := reads _ rfl _ _ _ ordinaryOwner opens opens' owners
    cases equal
    have sameName := String.toList_inj.mp (List.cons.inj simple).2
    exact ⟨start, rfl, by rw [nested, nested', sameName]⟩

end Paths

section Bounds

theorem ends_bounds (names : table.LegibleNames) (keyword : List Char) (notEmpty : ts ≠ [])
    (ordinary : ∀ t ∈ ts, table.Ordinary t) :
    Ends (fun c => c ∉ openers ∧ c ≠ '?') (keyword ++ joined ampersand ts) :=
  (ends_joined ampersand notEmpty fun t member => (ordinary t member).ends names).append keyword

theorem read_bounds {keyword keyword' : List Char} (isKeyword : IsKeyword keyword)
    (isKeyword' : IsKeyword keyword') (reads : ∀ t ∈ ts, table.Reads t)
    (ordinary : ∀ u ∈ us, table.Ordinary u) (notEmpty : ts ≠ []) (notEmpty' : us ≠ [])
    (same : before ++ (keyword ++ joined ampersand ts) =
      before' ++ (keyword' ++ joined ampersand us)) :
    before ++ keyword = before' ++ keyword' ∧ ts = us := by
  have opens := opensType_of_space (isKeyword.ends.append before)
  have opens' := opensType_of_space (isKeyword'.ends.append before')
  rw [← List.append_assoc, ← List.append_assoc] at same
  exact read_joined (fun more => opensType_of_space (ends_ampersand.append more)) opens opens'
    (isKeyword.append_ne before) (isKeyword'.append_ne before') reads ordinary notEmpty notEmpty'
    same

theorem unbounded_ne_bounded (names : table.LegibleNames) (keyword : List Char) (notEmpty : ts ≠ [])
    (ordinary : ∀ t ∈ ts, table.Ordinary t) :
    before ++ (wildcard [] [] : TypeExpr TypeName).text.toList ≠
      before' ++ (keyword ++ joined ampersand ts) := by
  have mark : Ends (· = '?') (wildcard [] [] : TypeExpr TypeName).text.toList := ⟨'?', rfl, rfl⟩
  exact (mark.append _).ne ((ends_bounds names _ notEmpty ordinary).append _)
    (by rintro _ rfl apart; exact apart.2 rfl)

theorem read_upper (names : table.LegibleNames) (reads : ∀ t ∈ upper, table.Reads t)
    (ordinary : ∀ t ∈ upper, table.Ordinary t) (ordinary' : ∀ u ∈ upper', table.Ordinary u)
    (same : before ++ (wildcard upper []).text.toList =
      before' ++ (wildcard upper' []).text.toList) :
    before = before' ∧ upper = upper' := by
  rcases eq_or_ne upper [] with rfl | bounded <;> rcases eq_or_ne upper' [] with rfl | bounded'
  · exact ⟨List.append_cancel_right same, rfl⟩
  · rw [toList_text_upper bounded', ← List.append_assoc] at same
    exact absurd same (unbounded_ne_bounded names _ bounded' ordinary')
  · rw [toList_text_upper bounded, ← List.append_assoc] at same
    exact absurd same.symm (unbounded_ne_bounded names _ bounded ordinary)
  · rw [toList_text_upper bounded, toList_text_upper bounded', ← List.append_assoc,
      ← List.append_assoc before'] at same
    obtain ⟨marks, rfl⟩ := read_bounds isKeyword_extends isKeyword_extends reads ordinary' bounded
      bounded' same
    exact ⟨List.append_cancel_right (List.append_cancel_right marks), rfl⟩

theorem upper_ne_lower (names : table.LegibleNames) (notEmpty : lower ≠ [])
    (ordinary : ∀ t ∈ upper, table.Ordinary t) (ordinary' : ∀ u ∈ lower, table.Ordinary u)
    (reads : (∀ t ∈ upper, table.Reads t) ∨ ∀ u ∈ lower, table.Reads u) :
    before ++ (wildcard upper []).text.toList ≠ before' ++ (wildcard upper' lower).text.toList := by
  intro same
  rw [toList_text_lower upper' notEmpty, ← List.append_assoc before'] at same
  rcases eq_or_ne upper [] with rfl | bounded
  · exact unbounded_ne_bounded names _ notEmpty ordinary' same
  · rw [toList_text_upper bounded, ← List.append_assoc] at same
    rcases reads with reads | reads
    · obtain ⟨keywords, -⟩ := read_bounds isKeyword_extends isKeyword_super reads ordinary' bounded
        notEmpty same
      exact extends_ne_super _ _ keywords
    · obtain ⟨keywords, -⟩ := read_bounds isKeyword_super isKeyword_extends reads ordinary notEmpty
        bounded same.symm
      exact extends_ne_super _ _ keywords.symm

theorem read_wildcard (names : table.LegibleNames)
    (ordinary : table.OrdinaryArgument (.wildcard upper lower))
    (ordinary' : table.OrdinaryArgument (.wildcard upper' lower'))
    (reads : ∀ bound ∈ upper ++ lower, table.Reads bound)
    (same : before ++ (wildcard upper lower).text.toList =
      before' ++ (wildcard upper' lower').text.toList) :
    before = before' ∧ wildcard upper lower = wildcard upper' lower' := by
  obtain ⟨uppers, lowers⟩ := List.forall_mem_append.mp ordinary.bound
  obtain ⟨uppers', lowers'⟩ := List.forall_mem_append.mp ordinary'.bound
  obtain ⟨readsUpper, readsLower⟩ := List.forall_mem_append.mp reads
  -- The lower bounds stand last, and where there are none the upper ones do.
  rcases eq_or_ne lower [] with rfl | bounded <;> rcases eq_or_ne lower' [] with rfl | bounded'
  · obtain ⟨start, rfl⟩ := read_upper names readsUpper uppers uppers' same
    exact ⟨start, rfl⟩
  · exact absurd same (upper_ne_lower names bounded' uppers lowers' (.inl readsUpper))
  · exact absurd same.symm (upper_ne_lower names bounded uppers' lowers (.inr readsLower))
  · rw [toList_text_lower upper bounded, toList_text_lower upper' bounded', ← List.append_assoc,
      ← List.append_assoc before'] at same
    obtain ⟨heads, rfl⟩ := read_bounds isKeyword_super isKeyword_super readsLower lowers' bounded
      bounded' same
    obtain ⟨start, rfl⟩ := read_upper names readsUpper uppers uppers'
      (List.append_cancel_right heads)
    exact ⟨start, rfl⟩

end Bounds

theorem OrdinaryArgument.unbounded_or_last
    (ordinary : table.OrdinaryArgument (.wildcard upper lower)) :
    wildcard upper lower = .unbounded ∨ ∃ bound ∈ upper ++ lower, table.Ordinary bound ∧
      ∃ inside, Ends (· = ' ') inside ∧
        (wildcard upper lower).text.toList = inside ++ bound.text.toList := by
  rcases eq_or_ne lower [] with rfl | bounded
  · rcases eq_or_ne upper [] with rfl | bounded
    · exact .inl rfl
    · obtain ⟨bound, member, last⟩ := exists_last_bound ['?'] isKeyword_extends.ends bounded
      have isPart := List.mem_append_left ([] : List (TypeExpr TypeName)) member
      exact .inr ⟨bound, isPart, ordinary.bound bound isPart, by rwa [toList_text_upper bounded]⟩
  · obtain ⟨bound, member, last⟩ := exists_last_bound _ isKeyword_super.ends bounded
    have isPart := List.mem_append_right upper member
    exact .inr ⟨bound, isPart, ordinary.bound bound isPart,
      by rwa [toList_text_lower upper bounded]⟩

theorem OrdinaryArgument.type_or_wildcard (ordinary : table.OrdinaryArgument t) :
    table.Ordinary t ∨ ∃ upper lower, t = .wildcard upper lower := by
  cases t with
  | wildcard upper lower => exact .inr ⟨upper, lower, rfl⟩
  | nominal | parameterized | array | intersection => exact .inl ⟨ordinary, nofun⟩

theorem OrdinaryArgument.ends (names : table.LegibleNames) (ordinary : table.OrdinaryArgument t) :
    Ends (· ∉ openers) t.text.toList := by
  rcases ordinary.type_or_wildcard with type | ⟨upper, lower, rfl⟩
  · exact (type.ends names).imp fun _ apart => apart.1
  · rcases ordinary.unbounded_or_last with unbounded | ⟨bound, -, type, inside, -, same⟩
    · rw [unbounded]
      exact ⟨'?', rfl, by decide⟩
    · rw [same]
      exact ((type.ends names).imp fun _ apart => apart.1).append inside

theorem type_ne_wildcard (names : table.LegibleNames) (type : table.Ordinary t)
    (ordinary : table.OrdinaryArgument (.wildcard upper lower))
    (reads : table.Reads t ∨ ∀ bound ∈ upper ++ lower, table.Reads bound)
    (opens : OpensArgument before) :
    before ++ t.text.toList ≠ before' ++ (wildcard upper lower).text.toList := by
  intro same
  rcases ordinary.unbounded_or_last with isUnbounded | ⟨bound, member, type', inside, spaced, last⟩
  · rw [isUnbounded] at same
    have mark : Ends (· = '?') (unbounded : TypeExpr TypeName).text.toList := ⟨'?', rfl, rfl⟩
    exact ((type.ends names).append _).ne (mark.append _) (fun _ apart => apart.2) same
  · rw [last, ← List.append_assoc] at same
    have behind := spaced.append before'
    have opensBound := opensType_of_space behind
    have sameStart : before = before' ++ inside := by
      rcases reads with reads | reads
      · exact (reads bound _ _ type' opens.opensType opensBound same).1
      · exact (reads bound member t _ _ type opensBound opens.opensType same.symm).1.symm
    exact behind.ne opens (by rintro _ rfl; decide) sameStart.symm

theorem Reads.readsArgument (names : table.LegibleNames) (reads : table.Reads t)
    (type : table.Ordinary t) : table.ReadsArgument t := by
  intro u before before' ordinary opens opens' same
  rcases ordinary.type_or_wildcard with type' | ⟨upper, lower, rfl⟩
  · exact reads u _ _ type' opens.opensType opens'.opensType same
  · exact absurd same (type_ne_wildcard names type ordinary (.inl reads) opens)

theorem readsArgument_wildcard (names : table.LegibleNames)
    (ordinary : table.OrdinaryArgument (.wildcard upper lower))
    (reads : ∀ bound ∈ upper ++ lower, table.Reads bound) :
    table.ReadsArgument (.wildcard upper lower) := by
  intro u before before' ordinary' opens opens' same
  rcases ordinary'.type_or_wildcard with type | ⟨upper', lower', rfl⟩
  · exact absurd same.symm (type_ne_wildcard names type ordinary (.inr reads) opens')
  · exact read_wildcard names ordinary ordinary' reads same

theorem bracket_ne_arguments (names : table.LegibleNames) (notEmpty : ts ≠ [])
    (ordinary : ∀ t ∈ ts, table.OrdinaryArgument t) :
    before ++ ['<'] ≠ before' ++ joined [','] ts := by
  have bracket := (Ends.singleton (P := (· = '<')) rfl).append before
  have last := ends_joined [','] notEmpty fun t member => (ordinary t member).ends names
  exact bracket.ne (last.append before') (by rintro _ rfl; decide)

theorem read_arguments (names : table.LegibleNames) (reads : ∀ t ∈ ts, table.ReadsArgument t)
    (ordinary : ∀ t ∈ ts, table.OrdinaryArgument t)
    (ordinary' : ∀ u ∈ us, table.OrdinaryArgument u)
    (same : before ++ ['<'] ++ joined [','] ts = before' ++ ['<'] ++ joined [','] us) :
    before = before' ∧ ts = us := by
  have empty : joined [','] ([] : List (TypeExpr TypeName)) = [] := rfl
  have separates : ∀ more, OpensArgument (more ++ [',']) :=
    fun more => (Ends.singleton (by decide)).append more
  have opens : ∀ before, OpensArgument (before ++ ['<']) :=
    fun before => (Ends.singleton (by decide)).append before
  have apart : ∀ before more, before ++ ['<'] ≠ more ++ [','] := by simp
  rcases eq_or_ne ts [] with rfl | notEmpty <;> rcases eq_or_ne us [] with rfl | notEmpty'
  · exact ⟨List.append_cancel_right (List.append_cancel_right same), rfl⟩
  · rw [empty, List.append_nil] at same
    exact absurd same (bracket_ne_arguments names notEmpty' ordinary')
  · rw [empty, List.append_nil] at same
    exact absurd same.symm (bracket_ne_arguments names notEmpty ordinary)
  · obtain ⟨brackets, rfl⟩ := read_joined separates (opens before) (opens before') (apart before)
      (apart before') reads ordinary' notEmpty notEmpty' same
    exact ⟨List.append_cancel_right brackets, rfl⟩

theorem reads_parameterized (reachable : Reachable table) (names : table.LegibleNames)
    {owner : Option (TypeExpr TypeName)} (ordinary : table.Ordinary (.parameterized owner raw args))
    (readsOwner : ∀ outer ∈ owner, table.Reads outer)
    (readsArgs : ∀ arg ∈ args, table.ReadsArgument arg) :
    table.Reads (.parameterized owner raw args) := by
  intro u before before' ordinary' opens opens' same
  cases u with
  | nominal k =>
    have legible := names.declared k ordinary'.node
    exact absurd same.symm (nominal_ne_structural legible opens' ordinary nofun)
  | array component => exact absurd same.symm array_ne_parameterized
  | parameterized owner' raw' args' =>
    rw [toList_text_parameterized, toList_text_parameterized, ← List.append_assoc,
      ← List.append_assoc before', List.append_left_inj, ← List.append_assoc, ← List.append_assoc,
      ← List.append_assoc before', ← List.append_assoc before'] at same
    obtain ⟨paths, rfl⟩ := read_arguments names readsArgs ordinary.argument ordinary'.argument same
    obtain ⟨start, rfl, rfl⟩ := read_path reachable names ordinary.toOrdinaryArgument
      ordinary'.toOrdinaryArgument readsOwner opens opens' paths
    exact ⟨start, rfl⟩
  | wildcard => exact absurd rfl ordinary'.noWildcard
  | intersection => exact ordinary'.node.elim

theorem OrdinaryArgument.reads (reachable : Reachable table) (names : table.LegibleNames)
    (ordinary : table.OrdinaryArgument t) :
    table.ReadsArgument t ∧ (table.Ordinary t → table.Reads t) := by
  -- Both readings are carried along: owners, bounds and components stand where only a type may, an
  -- argument where a wildcard may stand too.
  induction t using children_induction with
  | step t ih =>
    have arguments : ∀ child ∈ t.children, table.ReadsArgument child :=
      fun child member => (ih child member (ordinary.child member)).1
    have types : ∀ child ∈ t.children, table.Ordinary child → table.Reads child :=
      fun child member => (ih child member (ordinary.child member)).2
    rcases ordinary.type_or_wildcard with type | ⟨upper, lower, rfl⟩
    · have reads : table.Reads t := by
        cases t with
        | nominal h => exact reads_nominal names ordinary.node
        | parameterized owner raw args =>
          refine reads_parameterized reachable names type (fun outer isOwner => ?_)
            fun arg member => arguments arg (List.mem_append_right _ member)
          have isPart := List.mem_append_left args (Option.mem_toList.mpr isOwner)
          exact types outer isPart (ordinary.owner outer isOwner)
        | array component =>
          have isPart : component ∈ (array component).children := List.mem_singleton_self _
          exact reads_array names type (types component isPart ordinary.component)
        | wildcard => exact absurd rfl type.noWildcard
        | intersection => exact ordinary.node.elim
      exact ⟨reads.readsArgument names type, fun _ => reads⟩
    · refine ⟨readsArgument_wildcard names ordinary fun bound member => ?_, fun type => ?_⟩
      · exact types bound member (ordinary.bound bound member)
      · exact absurd rfl type.noWildcard

/-- Over legible names no two ordinary types have the same canonical text. -/
theorem text_injective_on_ordinary (reachable : Reachable table) (names : table.LegibleNames)
    (ordinary : table.Ordinary t) (ordinary' : table.Ordinary u) (same : t.text = u.text) :
    t = u := by
  have reads := (ordinary.reads reachable names).2 ordinary
  exact (reads u [] [] ordinary' (.inl rfl) (.inl rfl) (congrArg String.toList same)).2

theorem text_injective_on_ordinary_nest :
    let outer : TypeName := .plain "Outer"
    let instantiated : TypeExpr TypeName := .parameterized none outer
      [.wildcard [.nominal .object, .nominal outer.array] [.parameterized none outer [.unbounded]]]
    let inside : TypeExpr TypeName := .parameterized (some instantiated) (.plain "Outer.Middle")
      [.array (.parameterized none outer [.nominal outer])]
    Reachable nest ∧ nest.LegibleNames ∧ nest.Ordinary (.array inside) ∧
      nest.Ordinary (nest.host.arrayOf inside) ∧
      (array inside).text = "Outer<? extends java.lang.Object & Outer[] super Outer<?>>" ++
        ".Middle<Outer<Outer>[]>[]" ∧
      (nest.host.arrayOf inside).text = (array inside).text ∧
      nest.host.arrayOf inside = .array inside := by
  intro outer instantiated inside
  have reachable : Reachable nest := Reachable.initial.attemptAll _
  have names : nest.LegibleNames := reachable.legibleNames (by decide +kernel)
  have ordinary : nest.Ordinary (.array inside) := by decide +kernel
  have ordinary' : nest.Ordinary (nest.host.arrayOf inside) := ordinary
  have same : (nest.host.arrayOf inside).text = (array inside).text := by decide +kernel
  exact ⟨reachable, names, ordinary, ordinary', by decide +kernel, same,
    text_injective_on_ordinary reachable names ordinary' ordinary same⟩

end ClassTable

end GenericTypes
