import CodeGraph.Codec.Error
import CodeGraph.Logging.Event

/-!
# Reporting warnings

Operand text that cannot be split is reported as an event.
-/

namespace CodeGraph.Codec

/-- The event that reports a warning. -/
def Warning.event (warning : Warning) : Logging.Event where
  level := .warning
  name := "operand_markup_undecodable"
  fields :=
    [("address", .text (Hex.ofInt warning.address)), ("position", .integer warning.position)]

end CodeGraph.Codec
