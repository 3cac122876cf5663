import GenericTypes.Proofs.TypeExpr.OwnerPath
import Mathlib.Data.List.Induction

namespace GenericTypes

def Ends (P : Char → Prop) (text : List Char) : Prop :=
  ∃ c, text.getLast? = some c ∧ P c

namespace Ends

variable {P Q : Char → Prop} {text : List Char}

theorem singleton {c : Char} (holds : P c) : Ends P [c] := ⟨c, rfl, holds⟩

theorem append (before : List Char) (ends : Ends P text) : Ends P (before ++ text) := by
  obtain ⟨c, last, holds⟩ := ends
  exact ⟨c, by rw [List.getLast?_append, last, Option.some_or], holds⟩

theorem imp (ends : Ends P text) (weaker : ∀ c, P c → Q c) : Ends Q text := by
  obtain ⟨c, last, holds⟩ := ends
  exact ⟨c, last, weaker c holds⟩

theorem ne {other : List Char} (ends : Ends P text) (ends' : Ends Q other)
    (apart : ∀ c, P c → ¬ Q c) : text ≠ other := by
  rintro rfl
  obtain ⟨c, last, holds⟩ := ends
  obtain ⟨d, last', holds'⟩ := ends'
  obtain rfl : c = d := Option.some.inj (last.symm.trans last')
  exact apart c holds holds'

end Ends

def delimiters : List Char := ['<', '>', ',', '&', '?', ' ']

def Delimited (before : List Char) : Prop :=
  before = [] ∨ Ends (· ∈ delimiters) before

theorem Delimited.eq_nil {before more : List Char} (delimited : Delimited (before ++ more))
    (name : ∀ c ∈ more, c ∉ delimiters) : more = [] := by
  by_contra notEmpty
  have last : Ends (· ∉ delimiters) more :=
    ⟨_, List.getLast?_eq_some_getLast notEmpty, name _ (List.getLast_mem notEmpty)⟩
  rcases delimited with empty | ends
  · exact notEmpty (List.append_eq_nil_iff.mp empty).2
  · exact (last.append before).ne ends (fun _ => id) rfl

/-- A name reaches back to the last delimiter. -/
theorem read_name {before before' name name' : List Char} (delimited : Delimited before)
    (delimited' : Delimited before') (isName : ∀ c ∈ name, c ∉ delimiters)
    (isName' : ∀ c ∈ name', c ∉ delimiters) (same : before ++ name = before' ++ name') :
    before = before' ∧ name = name' := by
  rcases List.append_eq_append_iff.mp same with ⟨more, rfl, rfl⟩ | ⟨more, rfl, rfl⟩
  · obtain rfl := delimited'.eq_nil fun c member => isName c (List.mem_append_left _ member)
    simp
  · obtain rfl := delimited.eq_nil fun c member => isName' c (List.mem_append_left _ member)
    simp

theorem delimited_closed (before : List Char) : Delimited (before ++ ['>']) :=
  .inr ((Ends.singleton (by decide)).append before)

def ampersand : List Char := [' ', '&', ' ']

theorem ends_ampersand : Ends (· = ' ') ampersand :=
  ⟨' ', rfl, rfl⟩

/-- Bounds behind such a keyword do not look like the rest of a longer list. -/
def IsKeyword (keyword : List Char) : Prop :=
  ∃ letters c, c ≠ '&' ∧ keyword = letters ++ [c, ' ']

theorem IsKeyword.ends {keyword : List Char} (isKeyword : IsKeyword keyword) :
    Ends (· = ' ') keyword := by
  obtain ⟨letters, c, -, rfl⟩ := isKeyword
  exact Ends.append letters ⟨' ', rfl, rfl⟩

theorem IsKeyword.append_ne {keyword : List Char} (isKeyword : IsKeyword keyword)
    (before more : List Char) : before ++ keyword ≠ more ++ ampersand := by
  obtain ⟨letters, c, other, rfl⟩ := isKeyword
  intro equal
  have reversed := congrArg List.reverse equal
  simp only [ampersand, List.reverse_append, List.reverse_cons, List.reverse_nil, List.nil_append,
    List.cons_append, List.cons.injEq] at reversed
  exact other reversed.2.1

theorem isKeyword_extends : IsKeyword " extends ".toList :=
  ⟨" extend".toList, 's', by decide, by decide⟩

theorem isKeyword_super : IsKeyword " super ".toList :=
  ⟨" supe".toList, 'r', by decide, by decide⟩

theorem extends_ne_super (more more' : List Char) :
    more ++ " extends ".toList ≠ more' ++ " super ".toList := by
  intro equal
  have reversed := congrArg List.reverse equal
  simp at reversed

namespace TypeExpr

variable {H : Type} [Handle H]

def joined (separator : List Char) (ts : List (TypeExpr H)) : List Char :=
  separator.intercalate (ts.map fun t => t.text.toList)

def lead (separator : List Char) (ts : List (TypeExpr H)) : List Char :=
  if ts = [] then [] else joined separator ts ++ separator

theorem joined_append_singleton (separator : List Char) (before : List (TypeExpr H))
    (t : TypeExpr H) :
    joined separator (before ++ [t]) = lead separator before ++ t.text.toList := by
  induction before with
  | nil => simp [joined, lead]
  | cons first rest ih =>
    cases rest with
    | nil => simp [joined, lead]
    | cons second rest =>
      simp only [joined, lead, List.cons_append, List.map_cons, List.intercalate_cons_cons,
        List.append_assoc, reduceCtorEq, ↓reduceIte] at ih ⊢
      rw [ih]

theorem ends_joined {P : Char → Prop} (separator : List Char) {ts : List (TypeExpr H)}
    (notEmpty : ts ≠ []) (ends : ∀ t ∈ ts, Ends P t.text.toList) :
    Ends P (joined separator ts) := by
  obtain ⟨ts, t, rfl⟩ := (List.eq_nil_or_concat' ts).resolve_left notEmpty
  rw [joined_append_singleton]
  exact (ends t (by simp)).append _

theorem toList_text_parameterized (owner : Option (TypeExpr H)) (raw : H)
    (args : List (TypeExpr H)) : (parameterized owner raw args).text.toList =
      ((pathText owner raw).toList ++ ['<'] ++ joined [','] args) ++ ['>'] := by
  rw [text_parameterized, argumentsText]
  simp [joined, Function.comp_def]

theorem toList_boundsText (keyword : String) (bounds : List (TypeExpr H)) :
    (boundsText keyword (texts bounds)).toList =
      if bounds = [] then [] else keyword.toList ++ joined ampersand bounds := by
  rw [texts_eq_map, boundsText]
  cases bounds with
  | nil => rfl
  | cons bound rest => simp [joined, ampersand, Function.comp_def]

theorem toList_text_wildcard (upper lower : List (TypeExpr H)) :
    (wildcard upper lower).text.toList = ['?'] ++
      (boundsText " extends " (texts upper)).toList ++
        (boundsText " super " (texts lower)).toList := by
  simp [text]

theorem toList_text_upper {upper : List (TypeExpr H)} (notEmpty : upper ≠ []) :
    (wildcard upper []).text.toList = ['?'] ++ (" extends ".toList ++ joined ampersand upper) := by
  rw [toList_text_wildcard, toList_boundsText, toList_boundsText, if_neg notEmpty, if_pos rfl,
    List.append_nil]

theorem toList_text_lower (upper : List (TypeExpr H)) {lower : List (TypeExpr H)}
    (notEmpty : lower ≠ []) :
    (wildcard upper lower).text.toList =
      (wildcard upper []).text.toList ++ (" super ".toList ++ joined ampersand lower) := by
  rw [toList_text_wildcard, toList_text_wildcard, toList_boundsText " super ",
    toList_boundsText " super ", if_neg notEmpty, if_pos rfl, List.append_nil]

theorem toList_text_array (component : TypeExpr H) :
    (array component).text.toList = component.text.toList ++ ['[', ']'] := by
  simp [text]

/-- What one item of a list needs for the list to be read: behind whatever opens it, its text tells
    both what stood before and the item. -/
def ReadAs (Item : TypeExpr H → Prop) (Opening : List Char → Prop) (t : TypeExpr H) : Prop :=
  ∀ u before before', Item u → Opening before → Opening before' →
    before ++ t.text.toList = before' ++ u.text.toList → before = before' ∧ t = u

theorem opening_lead {Opening : List Char → Prop} {separator before : List Char}
    (separates : ∀ more, Opening (more ++ separator)) (opening : Opening before)
    (ts : List (TypeExpr H)) : Opening (before ++ lead separator ts) := by
  unfold lead
  split
  · rwa [List.append_nil]
  · rw [← List.append_assoc]
    exact separates _

theorem exists_last_bound (before : List Char) {keyword : List Char}
    (spaced : Ends (· = ' ') keyword) {bounds : List (TypeExpr H)} (notEmpty : bounds ≠ []) :
    ∃ bound ∈ bounds, ∃ inside, Ends (· = ' ') inside ∧
      before ++ (keyword ++ joined ampersand bounds) = inside ++ bound.text.toList := by
  obtain ⟨bounds, bound, rfl⟩ := (List.eq_nil_or_concat' bounds).resolve_left notEmpty
  refine ⟨bound, by simp, _, opening_lead ends_ampersand.append (spaced.append before) bounds, ?_⟩
  rw [joined_append_singleton, List.append_assoc, List.append_assoc]

theorem read_joined {Item : TypeExpr H → Prop} {Opening : List Char → Prop} {separator : List Char}
    (separates : ∀ more, Opening (more ++ separator)) {before before' : List Char}
    (opening : Opening before) (opening' : Opening before')
    (apart : ∀ more, before ≠ more ++ separator) (apart' : ∀ more, before' ≠ more ++ separator)
    {ts us : List (TypeExpr H)} (reads : ∀ t ∈ ts, ReadAs Item Opening t) (items : ∀ u ∈ us, Item u)
    (notEmpty : ts ≠ []) (notEmpty' : us ≠ [])
    (same : before ++ joined separator ts = before' ++ joined separator us) :
    before = before' ∧ ts = us := by
  -- The last items come off both lists. If only one of them is then used up, what stands before it
  -- ends in a separator, which `apart` and `apart'` exclude.
  induction ts using List.reverseRecOn generalizing us with
  | nil => exact absurd rfl notEmpty
  | append_singleton ts t ih =>
    obtain ⟨us, u, rfl⟩ := (List.eq_nil_or_concat' us).resolve_left notEmpty'
    rw [joined_append_singleton, joined_append_singleton, ← List.append_assoc,
      ← List.append_assoc] at same
    obtain ⟨leads, rfl⟩ := reads t (by simp) u _ _ (items u (by simp))
      (opening_lead separates opening ts) (opening_lead separates opening' us) same
    by_cases first : ts = [] <;> by_cases first' : us = [] <;>
      simp only [lead, first, first', ↓reduceIte, List.append_nil, ← List.append_assoc,
        List.append_left_inj] at leads
    · exact ⟨leads, by rw [first, first']⟩
    · exact absurd leads (apart _)
    · exact absurd leads.symm (apart' _)
    · obtain ⟨start, rfl⟩ := ih (fun t member => reads t (List.mem_append_left _ member))
        (fun u member => items u (List.mem_append_left _ member)) first first' leads
      exact ⟨start, rfl⟩

end TypeExpr

end GenericTypes
