/-!
# Words and memory

Indices and counts are kept in words of 64 bits with a sign, and a column has to fit
into memory.  These are the bounds at which numbers are refused for their size.
-/

namespace Plonkish

/-- The least positive integer that does not fit into 64 bits with a sign. -/
def wordBound : Int := .ofNat (Nat.pow 2 63)

/-- Whether an integer fits into 64 bits with a sign. -/
def FitsWord (number : Int) : Prop :=
  -wordBound ≤ number ∧ number < wordBound

instance (number : Int) : Decidable (FitsWord number) :=
  inferInstanceAs (Decidable (_ ∧ _))

/-- The least length that no column has in a memory of 64-bit words. -/
def lengthBound : Int := .ofNat (Nat.pow 2 60)

/-- Whether a list can be continued by so many entries, none if the number is negative: the
number fits into a word, and the entries into a memory of such words. -/
def CanExtend (added : Int) : Prop :=
  FitsWord added ∧ added < lengthBound

instance (added : Int) : Decidable (CanExtend added) :=
  inferInstanceAs (Decidable (_ ∧ _))

/-- The greatest length for which a new column fits into memory. -/
def memoryLimit : Int := .ofNat (Nat.pow 2 32)

end Plonkish
