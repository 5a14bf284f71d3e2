/-!
# Phases of a system

A system of constraints is first built, then padded, and at last its witness is
taken out, after which it only describes the circuit.
-/

namespace Plonkish

/-- How far a system of constraints has come. -/
inductive Phase where
  /-- Variables and rows can be added. -/
  | building
  /-- The number of rows is a power of two and nothing can be added. -/
  | padded
  /-- The witness has been taken out. -/
  | proving
  deriving DecidableEq

def Phase.label : Phase → String
  | building => "building"
  | padded => "padded"
  | proving => "proving"

end Plonkish
