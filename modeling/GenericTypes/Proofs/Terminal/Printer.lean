import GenericTypes.Proofs.Report.Typesetting
import GenericTypes.Proofs.Terminal.Filling
import GenericTypes.Terminal.Printer

namespace GenericTypes.Terminal

open Escape Report

theorem foldl_columns_eq (state : Escape.State) (total : Nat) (chars : List Char) :
    (List.zipWith (fun c shown => if shown then columns c else 0) chars (state.shown chars)).foldl
        (· + ·) total =
      ((state.visible chars).map columns).foldl (· + ·) total := by
  induction chars generalizing state total with
  | nil => rfl
  | cons c chars ih =>
    rw [Escape.State.shown_cons, List.zipWith_cons_cons, List.foldl_cons, ih,
      Escape.State.visible_cons]
    by_cases outside : state = .text ∧ c ≠ Escape.escape
    · simp [outside]
    · rw [if_neg outside, if_neg (by simpa using outside), Nat.add_zero]

theorem totalColumns_eq_visible (chars : List Char) :
    totalColumns chars = ((Escape.visible chars).map columns).foldl (· + ·) 0 :=
  foldl_columns_eq .text 0 chars

theorem totalColumns_eq_of_shows {painted plain : String} (shown : Shows painted plain) :
    totalColumns painted.toList = totalColumns plain.toList := by
  rw [totalColumns_eq_visible, totalColumns_eq_visible, shown.visible_eq,
    visible_of_plain shown.escape_not_mem]

theorem red_invisible : red.Invisible := ⟨⟨by decide, by decide⟩, ⟨by decide, by decide⟩, by decide⟩

theorem cyan_invisible : cyan.Invisible :=
  ⟨⟨by decide, by decide⟩, ⟨by decide, by decide⟩, by decide⟩

theorem printer_lawful : printer.Lawful typesetting red cyan where
  unicode _ _ _ := rfl
  unicodeNoColour _ _ _ := rfl
  ascii _ _ _ := rfl
  asciiNoColour _ _ _ := rfl
  alarm_invisible := red_invisible
  advice_invisible := cyan_invisible
  mem_of_mem_fill limit text _ line member c inside :=
    (Filling.mem_of_mem_fill member inside).1
  columns_eq painted plain shown := totalColumns_eq_of_shows shown
  columns_cross := by decide +kernel
  columns_bar := by decide +kernel

end GenericTypes.Terminal
