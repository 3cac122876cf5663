import GenericTypes.Report.Layout
import GenericTypes.Terminal.Filling

namespace GenericTypes.Terminal

open Report

def red : Ink := ⟨"\x1b[31m", "\x1b[0m"⟩

def cyan : Ink := ⟨"\x1b[36m", "\x1b[0m"⟩

def lineColumns : Nat := 198

def typesetting : Typesetting where
  columns text := totalColumns text.toList
  fill margins := Filling.fill fun place => lineColumns - margins place

def printer : Printer where
  Theme := Palette
  unicode := ⟨"×", "│", red, cyan⟩
  unicodeNoColour := ⟨"×", "│", .plain, .plain⟩
  ascii := ⟨"x", "|", red, cyan⟩
  asciiNoColour := ⟨"x", "|", .plain, .plain⟩
  print palette diagnostic := some (typesetting.page palette diagnostic)

end GenericTypes.Terminal
