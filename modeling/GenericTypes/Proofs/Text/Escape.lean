import GenericTypes.Text.Escape
import Mathlib.Data.List.Forall2

namespace GenericTypes

namespace Escape

theorem State.shown_cons (state : State) (c : Char) (chars : List Char) :
    state.shown (c :: chars) = (state = .text && c ≠ escape) :: (state.step c).shown chars := by
  rw [shown, List.scanl_cons, List.zipWith_cons_cons, shown]

theorem State.visible_cons (state : State) (c : Char) (chars : List Char) :
    state.visible (c :: chars) =
      if state = .text ∧ c ≠ escape then c :: (state.step c).visible chars
      else (state.step c).visible chars := by
  rw [visible, shown_cons, List.zip_cons_cons, List.filter_cons]
  by_cases outside : state = .text ∧ c ≠ escape
  · simp [outside, visible]
  · rw [if_neg (by simpa using outside), if_neg outside, visible]

theorem State.visible_append (state : State) (chars more : List Char) :
    state.visible (chars ++ more) =
      state.visible chars ++ (chars.foldl State.step state).visible more := by
  induction chars generalizing state with
  | nil => rfl
  | cons c chars ih =>
    rw [List.cons_append, visible_cons, visible_cons, ih, List.foldl_cons]
    split <;> rfl

theorem State.escape_not_mem_visible (state : State) (chars : List Char) :
    escape ∉ state.visible chars := by
  induction chars generalizing state with
  | nil => exact List.not_mem_nil
  | cons c chars ih =>
    rw [visible_cons]
    split
    next outside =>
      rw [List.mem_cons, not_or]
      exact ⟨Ne.symm outside.2, ih _⟩
    next => exact ih _

def Closes (chars : List Char) : Prop := chars.foldl State.step .text = .text

instance (chars : List Char) : Decidable (Closes chars) :=
  inferInstanceAs (Decidable (chars.foldl State.step .text = .text))

theorem Closes.append {chars more : List Char} (closes : Closes chars) (also : Closes more) :
    Closes (chars ++ more) := by
  rw [Closes, List.foldl_append, closes, also]

theorem visible_append {chars more : List Char} (closes : Closes chars) :
    visible (chars ++ more) = visible chars ++ visible more := by
  rw [visible, State.visible_append, closes, visible, visible]

theorem Closes.of_plain {chars : List Char} (plain : escape ∉ chars) : Closes chars := by
  induction chars with
  | nil => rfl
  | cons c chars ih =>
    rw [List.mem_cons, not_or] at plain
    have stays : State.text.step c = .text := if_neg (Ne.symm plain.1)
    rw [Closes, List.foldl_cons, stays]
    exact ih plain.2

theorem visible_of_plain {chars : List Char} (plain : escape ∉ chars) :
    visible chars = chars := by
  induction chars with
  | nil => rfl
  | cons c chars ih =>
    rw [List.mem_cons, not_or] at plain
    have stays : State.text.step c = .text := if_neg (Ne.symm plain.1)
    rw [visible, State.visible_cons, if_pos ⟨rfl, Ne.symm plain.1⟩, stays]
    exact congrArg (c :: ·) (ih plain.2)

/-- What is painted shows a plain text if the plain text is what its sequences leave, and it leaves
    none of them open. -/
structure Shows (painted plain : String) : Prop where
  closes : Closes painted.toList
  visible_eq : visible painted.toList = plain.toList

theorem Shows.of_plain (text : String) (plain : escape ∉ text.toList) : Shows text text :=
  ⟨.of_plain plain, visible_of_plain plain⟩

theorem Shows.append {painted plain painted' plain' : String} (shown : Shows painted plain)
    (also : Shows painted' plain') : Shows (painted ++ painted') (plain ++ plain') where
  closes := by
    rw [String.toList_append]
    exact shown.closes.append also.closes
  visible_eq := by
    rw [String.toList_append, visible_append shown.closes, shown.visible_eq, also.visible_eq,
      String.toList_append]

theorem Shows.join {painted plain : List String} (each : List.Forall₂ Shows painted plain) :
    Shows (String.join painted) (String.join plain) := by
  induction each with
  | nil => exact .of_plain "" List.not_mem_nil
  | cons first _ ih =>
    rw [String.join_cons, String.join_cons]
    exact first.append ih

theorem Shows.escape_not_mem {painted plain : String} (shown : Shows painted plain) :
    escape ∉ plain.toList := by
  rw [← shown.visible_eq]
  exact State.escape_not_mem_visible .text painted.toList

end Escape

end GenericTypes
