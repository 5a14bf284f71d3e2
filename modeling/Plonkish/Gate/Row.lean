import Plonkish.Gate.Basic

/-!
# Rows of the constraint matrix

A row names the variable on each wire and the value of each selector.  The rows
below express one relation each; wires that a relation does not need carry
variable 0 under a zero weight.
-/

namespace Plonkish

namespace Selectors

variable {F : BaseField}

/-- All selectors zero: the gate equation holds whatever the wires are. -/
def zero : Selectors (Element F) :=
  ⟨0, 0, 0, 0, 0, 0, 0, 0, 0, 0, 0, 0, 0⟩

def linear (q1 q2 q3 q4 : Element F) : Selectors (Element F) :=
  { zero with q1, q2, q3, q4, qo := 1 }

def product : Selectors (Element F) :=
  { zero with qm1 := 1, qo := 1 }

def constant (value : Element F) : Selectors (Element F) :=
  { zero with qc := value, qo := 1 }

/-- The output is `w2 - w1 w2 + w3 w4`. -/
def selection : Selectors (Element F) :=
  { zero with q2 := 1, qm1 := -1, qm2 := 1, qo := 1 }

end Selectors

structure Row (F : BaseField) where
  wires : Wires Nat
  selectors : Selectors (Element F)
  deriving DecidableEq

namespace Row

variable {F : BaseField}

def linear (w1 w2 w3 w4 output : Nat) (q1 q2 q3 q4 : Element F) : Row F :=
  ⟨⟨w1, w2, w3, w4, output⟩, .linear q1 q2 q3 q4⟩

def sum (left right output : Nat) : Row F :=
  linear left right 0 0 output 1 1 0 0

def difference (left right output : Nat) : Row F :=
  linear left right 0 0 output 1 (-1) 0 0

def product (left right output : Nat) : Row F :=
  ⟨⟨left, right, 0, 0, output⟩, .product⟩

/-- The variable is its own square, hence 0 or 1. -/
def boolean (index : Nat) : Row F :=
  product index index index

def constant (index : Nat) (value : Element F) : Row F :=
  ⟨.replicate index, .constant value⟩

/-- The variable `output` is `var0` where `bit` is 0 and `var1` where it is 1. -/
def selection (bit var0 var1 output : Nat) : Row F :=
  ⟨⟨bit, var0, bit, var1, output⟩, .selection⟩

/-- A row that every witness satisfies. -/
def padding : Row F :=
  ⟨.replicate 0, .zero⟩

end Row

end Plonkish
