import Plonkish.Gadget.RangeCheck

/-!
# Arithmetic with a bounded result

A circuit for two inputs `a` and `b`:

    c = a + b
    d = a * b
    e = w0 a + w1 b + w2 c + w3 d
    e < 2^n

On demand `a` is forced to be 0 or 1 as well.
-/

namespace Plonkish

structure ArithmeticRange where
  a : Value
  b : Value
  /-- The weights of the inputs, their sum and their product. -/
  weights : Value := .list [.int 1, .int 1, .int 1, .int 1]
  bitCount : Value := .int 3
  /-- Whether the first input has to be 0 or 1, by the truth value of the argument. -/
  booleanA : Value := .bool false

namespace ArithmeticRange

structure Variables where
  a : Nat
  b : Nat
  /-- The sum of the inputs. -/
  c : Nat
  /-- The product of the inputs. -/
  d : Nat
  /-- The weighted sum. -/
  e : Nat
  /-- The binary digits of the weighted sum, least significant first. -/
  digits : List BoolVar
  deriving DecidableEq

def Variables.named (found : Variables) : List (String × Nat) :=
  [("a", found.a), ("b", found.b), ("c", found.c), ("d", found.d), ("e", found.e)]
  ++ found.digits.zipIdx.map fun (digit, position) => (s!"e_bit{position}", digit.index)

variable {F : BaseField}

def build (circuit : ArithmeticRange) : Builder F Variables := do
  let a ← Builder.newVariable circuit.a
  let b ← Builder.newVariable circuit.b
  if ← Checked.ofExcept circuit.booleanA.truth then
    let _ ← Builder.insertBooleanGate (.ofNat a)
  let c ← Builder.add (.ofNat a) (.ofNat b)
  let d ← Builder.mul (.ofNat a) (.ofNat b)
  match ← Checked.entries circuit.weights with
  | [w0, w1, w2, w3] =>
    let inputs := Value.list [.ofNat a, .ofNat b, .ofNat c, .ofNat d]
    let e ← Builder.linearCombine inputs w0 w1 w2 w3
    let digits ← Builder.rangeCheck (.ofNat e) circuit.bitCount
    return { a, b, c, d, e, digits }
  | weights => throw (.input (.weightCount weights.length))

end ArithmeticRange

end Plonkish
