import GenericTypes.Terminal.Printer

namespace GenericTypes.Report

variable {H : Type} [Handle H]

/-- The report on a terminal, whose printer never fails. -/
def render (config : Config) (error : InstantiationError H) : String :=
  Terminal.typesetting.page (Terminal.printer.theme config) (diagnostic error)

end GenericTypes.Report
