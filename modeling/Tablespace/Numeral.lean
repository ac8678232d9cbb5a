/-!
# Natural numbers

A library of algebra brings further ways to the power of a number and to the zero that a sum begins
with. Here those of the language itself go first, so that a definition reads the same whether or not
such a library is at hand.
-/

attribute [instance (10000), default_instance (10000)] instPowNat

namespace Tablespace

/-- The zero that sums begin with. -/
instance (priority := 10000) instZeroNat : Zero Nat := ⟨0⟩

end Tablespace
