import GenericTypes.Instantiate

namespace GenericTypes

variable {H : Type} [Handle H]

namespace InstantiationError

def code : InstantiationError H → String
  | argumentCountMismatch .. => "typegraph::arity"
  | ownerMismatch .. => "typegraph::owner_mismatch"
  | unsupportedOwner .. => "typegraph::unsupported_owner"

def help : InstantiationError H → String
  | argumentCountMismatch raw expected _ =>
    Handle.text raw ++ " declares " ++ toString expected ++ " type parameter(s)"
  | ownerMismatch raw (some enclosing) _ =>
    "the owner of " ++ Handle.text raw ++ " must parameterize " ++ Handle.text enclosing
  | ownerMismatch raw none _ => Handle.text raw ++ " is a top-level type and takes no owner"
  | unsupportedOwner .. => "pass a parameterized owner, or none to use the enclosing type"

end InstantiationError

namespace Report

structure Diagnostic where
  code : String
  message : String
  help : String
deriving DecidableEq, Repr

def diagnostic (error : InstantiationError H) : Diagnostic :=
  ⟨error.code, error.message, error.help⟩

inductive Charset where
  | unicode
  | ascii
deriving DecidableEq, Repr

structure Config where
  colour : Bool := true
  charset : Charset := .unicode
deriving DecidableEq, Repr

/-- A printer of diagnostics, with its themes. It may fail to format a diagnostic. -/
structure Printer where
  Theme : Type
  unicode : Theme
  unicodeNoColour : Theme
  ascii : Theme
  asciiNoColour : Theme
  print : Theme → Diagnostic → Option String

namespace Printer

def theme (printer : Printer) (config : Config) : printer.Theme :=
  match config.charset, config.colour with
  | .unicode, true => printer.unicode
  | .unicode, false => printer.unicodeNoColour
  | .ascii, true => printer.ascii
  | .ascii, false => printer.asciiNoColour

def report (printer : Printer) (config : Config) (error : InstantiationError H) :
    Except String String :=
  match printer.print (printer.theme config) (diagnostic error) with
  | some text => .ok text
  | none => .error "failed to format diagnostic"

end Printer

end Report

end GenericTypes
