import GenericTypes.TypeExpr.Text
import Mathlib.Data.List.Chain

namespace GenericTypes.TypeExpr

/-- A name, with the dot before it, or the type arguments of an owner. -/
inductive Segment (H : Type) where
  | name (text : String)
  | arguments (args : List (TypeExpr H))

variable {H : Type} [Handle H]

def argumentsText (args : List (TypeExpr H)) : String :=
  "<" ++ ",".intercalate (args.map text) ++ ">"

namespace Segment

def text : Segment H → String
  | name text => text
  | arguments args => argumentsText args

def isName : Segment H → Bool
  | name _ => true
  | arguments _ => false

end Segment

mutual

def segments : TypeExpr H → List (Segment H)
  | parameterized owner raw args => pathSegments owner raw ++ [.arguments args]
  | nominal h => [.name (Handle.text h)]
  | wildcard upper lower => [.name (text (wildcard upper lower))]
  | array component => [.name (text (array component))]
  | intersection members => [.name (text (intersection members))]
termination_by structural t => t

def pathSegments : Option (TypeExpr H) → H → List (Segment H)
  | none, raw => [.name (Handle.text raw)]
  | some owner, raw => segments owner ++ [.name ("." ++ Handle.simpleName raw)]
termination_by structural owner => owner

end

def spell (segments : List (Segment H)) : String :=
  String.join (segments.map Segment.text)

theorem spell_append (segments more : List (Segment H)) :
    spell (segments ++ more) = spell segments ++ spell more := by
  rw [spell, List.map_append, String.join_append, spell, spell]

theorem spell_singleton (segment : Segment H) : spell [segment] = segment.text := by
  simp [spell]

theorem text_parameterized (owner : Option (TypeExpr H)) (raw : H) (args : List (TypeExpr H)) :
    (parameterized owner raw args).text = pathText owner raw ++ argumentsText args := by
  rw [text, texts_eq_map, argumentsText, String.append_assoc, String.append_assoc,
    String.append_assoc]

mutual

theorem spell_segments (t : TypeExpr H) : spell t.segments = t.text := by
  cases t with
  | parameterized owner raw args =>
    rw [segments, spell_append, spell_singleton, spell_pathSegments owner raw, text_parameterized]
    rfl
  | nominal h => exact spell_singleton _
  | wildcard upper lower => exact spell_singleton _
  | array component => exact spell_singleton _
  | intersection members => exact spell_singleton _

theorem spell_pathSegments (owner : Option (TypeExpr H)) (raw : H) :
    spell (pathSegments owner raw) = pathText owner raw := by
  cases owner with
  | none => exact spell_singleton _
  | some owner =>
    rw [pathSegments, spell_append, spell_singleton, spell_segments owner, pathText,
      String.append_assoc]
    rfl

end

def bareText (t : TypeExpr H) : String :=
  spell (t.segments.filter Segment.isName)

def barePath (owner : Option (TypeExpr H)) (raw : H) : String :=
  spell ((pathSegments owner raw).filter Segment.isName)

theorem bareText_nominal (h : H) : (nominal h).bareText = Handle.text h :=
  spell_singleton _

theorem bareText_parameterized (owner : Option (TypeExpr H)) (raw : H) (args : List (TypeExpr H)) :
    (parameterized owner raw args).bareText = barePath owner raw := by
  rw [bareText, segments, List.filter_append, List.filter_cons_of_neg (by simp [Segment.isName]),
    List.filter_nil, List.append_nil, barePath]

theorem barePath_none (raw : H) : barePath none raw = Handle.text raw :=
  spell_singleton _

theorem barePath_some (owner : TypeExpr H) (raw : H) :
    barePath (some owner) raw = owner.bareText ++ ("." ++ Handle.simpleName raw) := by
  rw [barePath, pathSegments, List.filter_append, List.filter_cons_of_pos (by rfl),
    List.filter_nil, spell_append, spell_singleton, bareText]
  rfl

def path {H : Type} : TypeExpr H → List H
  | nominal h => [h]
  | parameterized none raw _ => [raw]
  | parameterized (some owner) raw _ => raw :: owner.path
  | wildcard .. | array .. | intersection .. => []
termination_by structural t => t

theorem path_isChain_iff {H : Type} {R : H → H → Prop} {owner : TypeExpr H} {outer raw : H}
    {args : List (TypeExpr H)} (names : owner.handle? = some outer) :
    (parameterized (some owner) raw args).path.IsChain R ↔ R raw outer ∧ owner.path.IsChain R := by
  have starts : ∃ rest, owner.path = outer :: rest := by
    cases owner with
    | nominal => cases names; exact ⟨[], rfl⟩
    | parameterized further _ _ => cases names; cases further <;> exact ⟨_, rfl⟩
    | wildcard | array | intersection => cases names
  obtain ⟨rest, starts⟩ := starts
  rw [path, starts, List.isChain_cons_cons]

end GenericTypes.TypeExpr
