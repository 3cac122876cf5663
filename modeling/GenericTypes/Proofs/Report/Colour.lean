import GenericTypes.Proofs.Report.Typesetting

namespace GenericTypes

open Escape

namespace Report

variable {printer : Printer} {typesetting : Typesetting} {alarm advice : Ink}
  {diagnostic : Diagnostic}

theorem Ink.Invisible.shows_paint {ink : Ink} (invisible : ink.Invisible) {text : String}
    (plain : escape ∉ text.toList) : Shows (ink.paint text) text := by
  have shown := (invisible.start.append (.of_plain text plain)).append invisible.stop
  rwa [String.empty_append, String.append_empty] at shown

theorem Ink.paint_plain (text : String) : Ink.plain.paint text = text := by
  show "" ++ text ++ "" = text
  rw [String.empty_append, String.append_empty]

theorem Ink.Invisible.shows_marked {ink : Ink} (invisible : ink.Invisible) {mark : String}
    (plain : escape ∉ mark.toList) : Shows (marked ink mark) (marked .plain mark) := by
  unfold marked
  rw [Ink.paint_plain]
  have spaces : Shows "  " "  " := .of_plain "  " (by decide)
  have space : Shows " " " " := .of_plain " " (by decide)
  exact (spaces.append (invisible.shows_paint plain)).append space

theorem Ink.Invisible.newline_not_mem_paint {ink : Ink} (invisible : ink.Invisible) {text : String}
    (unbroken : '\n' ∉ text.toList) : '\n' ∉ (ink.paint text).toList := by
  have sequences := invisible.unbroken
  rw [List.mem_append, not_or] at sequences
  simp only [paint, String.toList_append, List.mem_append, not_or]
  exact ⟨⟨sequences.1, unbroken⟩, sequences.2⟩

theorem Ink.Invisible.newline_not_mem_marked {ink : Ink} (invisible : ink.Invisible)
    {mark : String} (unbroken : '\n' ∉ mark.toList) : '\n' ∉ (marked ink mark).toList := by
  have painted := invisible.newline_not_mem_paint unbroken
  simp [marked, painted]

namespace Palette

def uncoloured (palette : Palette) : Palette := { palette with alarm := .plain, advice := .plain }

/-- The marks are text on one line, and the colours are none. -/
structure Legible (palette : Palette) : Prop where
  cross : escape ∉ palette.cross.toList
  bar : escape ∉ palette.bar.toList
  unbroken : '\n' ∉ palette.cross.toList ++ palette.bar.toList
  alarm : palette.alarm.Invisible
  advice : palette.advice.Invisible

variable {palette : Palette}

theorem inUnicode_legible (alarm_invisible : alarm.Invisible)
    (advice_invisible : advice.Invisible) : (inUnicode alarm advice).Legible :=
  ⟨(by decide : escape ∉ "×".toList), (by decide : escape ∉ "│".toList),
    (by decide : '\n' ∉ "×".toList ++ "│".toList), alarm_invisible, advice_invisible⟩

theorem inAscii_legible (alarm_invisible : alarm.Invisible)
    (advice_invisible : advice.Invisible) : (inAscii alarm advice).Legible :=
  ⟨(by decide : escape ∉ "x".toList), (by decide : escape ∉ "|".toList),
    (by decide : '\n' ∉ "x".toList ++ "|".toList), alarm_invisible, advice_invisible⟩

theorem Legible.shows_messageMargin (legible : palette.Legible) (place : Margin) :
    Shows (palette.messageMargin place) (palette.uncoloured.messageMargin place) := by
  cases place with
  | first => exact legible.alarm.shows_marked legible.cross
  | further => exact legible.alarm.shows_marked legible.bar

theorem Legible.shows_helpMargin (legible : palette.Legible) (place : Margin) :
    Shows (palette.helpMargin place) (palette.uncoloured.helpMargin place) := by
  cases place with
  | first =>
    show Shows (palette.advice.paint "  help: ") (Ink.plain.paint "  help: ")
    rw [Ink.paint_plain]
    exact legible.advice.shows_paint (by decide)
  | further => exact .of_plain "        " (by decide)

theorem Legible.newline_not_mem_messageMargin (legible : palette.Legible) (place : Margin) :
    '\n' ∉ (palette.messageMargin place).toList := by
  have marks := legible.unbroken
  rw [List.mem_append, not_or] at marks
  cases place with
  | first => exact legible.alarm.newline_not_mem_marked marks.1
  | further => exact legible.alarm.newline_not_mem_marked marks.2

theorem Legible.newline_not_mem_helpMargin (legible : palette.Legible) (place : Margin) :
    '\n' ∉ (palette.helpMargin place).toList := by
  cases place with
  | first => exact legible.advice.newline_not_mem_paint (by decide)
  | further => exact (by decide : '\n' ∉ "        ".toList)

end Palette

namespace Printer.Lawful

variable {palette : Palette}

theorem shows_filled (lawful : printer.Lawful typesetting alarm advice)
    {margin plainMargin : Margin → String}
    (margins : ∀ place, Shows (margin place) (plainMargin place)) {text : String}
    (plain : PlainText text) :
    List.Forall₂ Shows (typesetting.filled margin text) (typesetting.filled plainMargin text) := by
  have columns := fun place => lawful.columns_eq _ _ (margins place)
  obtain ⟨lines, plainLines, painted, bare⟩ := lawful.filled_eq columns plain
  rw [painted, bare, List.forall₂_map_left_iff, List.forall₂_map_right_iff, List.forall₂_same]
  intro line member
  have unpainted : Shows line.text line.text :=
    .of_plain line.text (plainLines line member).escape_not_mem
  exact (margins line.margin).append unpainted

theorem shows_lines (lawful : printer.Lawful typesetting alarm advice) (legible : palette.Legible)
    (code : escape ∉ diagnostic.code.toList) (message : PlainText diagnostic.message)
    (help : PlainText diagnostic.help) :
    List.Forall₂ Shows (typesetting.lines palette diagnostic)
      (typesetting.lines palette.uncoloured diagnostic) := by
  have codeLine : Shows (palette.alarm.paint diagnostic.code)
      (palette.uncoloured.alarm.paint diagnostic.code) := by
    show Shows _ (Ink.plain.paint diagnostic.code)
    rw [Ink.paint_plain]
    exact legible.alarm.shows_paint code
  apply List.Forall₂.cons codeLine
  apply List.Forall₂.cons (Shows.of_plain "" List.not_mem_nil)
  apply List.rel_append
  · exact lawful.shows_filled legible.shows_messageMargin message
  · exact lawful.shows_filled legible.shows_helpMargin help

theorem shows_page (lawful : printer.Lawful typesetting alarm advice) (legible : palette.Legible)
    (code : escape ∉ diagnostic.code.toList) (message : PlainText diagnostic.message)
    (help : PlainText diagnostic.help) :
    Shows (typesetting.page palette diagnostic)
      (typesetting.page palette.uncoloured diagnostic) := by
  have each := lawful.shows_lines legible code message help
  unfold Typesetting.page
  apply Shows.join
  rw [List.forall₂_map_left_iff, List.forall₂_map_right_iff]
  apply each.imp
  intro painted plain shown
  exact shown.append (.of_plain "\n" (by decide))

end Printer.Lawful

end Report

end GenericTypes
