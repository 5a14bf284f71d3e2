import Plonkish.Config.Basic
import Plonkish.Json.Document

/-!
# Configurations written as JSON

A configuration can be read from a JSON text whose outermost value is an object.
-/

namespace Plonkish

/-- The greatest depth of nested arrays and objects in the text of a configuration. -/
def Config.maxDepth : Nat := 990

def Config.ofJson (content : String) : Except CircuitError Config :=
  match JsonDocument.ofText maxDepth content with
  | .ok (.object entries) => ofEntries (entries.map fun (key, value) => (key, value.toValue))
  | .ok _ => .error (.input .notAnObject)
  | .error cause => .error (.input cause)

end Plonkish
