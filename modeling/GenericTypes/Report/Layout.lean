import GenericTypes.Report.Diagnostic

namespace GenericTypes.Report

/-- Colour is a sequence before the text and another one after it. -/
structure Ink where
  start : String
  stop : String
deriving DecidableEq, Repr

namespace Ink

def plain : Ink := ⟨"", ""⟩

def paint (ink : Ink) (text : String) : String := ink.start ++ text ++ ink.stop

end Ink

inductive Margin where
  | first
  | further
deriving DecidableEq, Repr

structure Line where
  margin : Margin
  text : String
deriving DecidableEq, Repr

def marked (ink : Ink) (mark : String) : String := "  " ++ ink.paint mark ++ " "

/-- The marks before the first line of a message and before its further lines, the ink of these
    marks and of the code, and the ink of the word before the help. -/
structure Palette where
  cross : String
  bar : String
  alarm : Ink
  advice : Ink
deriving DecidableEq, Repr

namespace Palette

def messageMargin (palette : Palette) : Margin → String
  | .first => marked palette.alarm palette.cross
  | .further => marked palette.alarm palette.bar

def helpMargin (palette : Palette) : Margin → String
  | .first => palette.advice.paint "  help: "
  | .further => "        "

end Palette

/-- A measure of text, and a way to fill text into lines beside margins of given columns. -/
structure Typesetting where
  columns : String → Nat
  fill : (Margin → Nat) → String → List Line

namespace Typesetting

def filled (typesetting : Typesetting) (margin : Margin → String) (text : String) : List String :=
  (typesetting.fill (fun place => typesetting.columns (margin place)) text).map
    fun line => margin line.margin ++ line.text

def lines (typesetting : Typesetting) (palette : Palette) (diagnostic : Diagnostic) :
    List String :=
  palette.alarm.paint diagnostic.code :: "" ::
    (typesetting.filled palette.messageMargin diagnostic.message ++
      typesetting.filled palette.helpMargin diagnostic.help)

def page (typesetting : Typesetting) (palette : Palette) (diagnostic : Diagnostic) : String :=
  String.join ((typesetting.lines palette diagnostic).map (· ++ "\n"))

end Typesetting

end GenericTypes.Report
