/-!
# Powers of whole numbers

Powers of integers and of natural numbers are those of the core library. A library that brings powers
of its own must not change what a number means here.
-/

namespace SecurityScan

@[default_instance 20000]
instance intPower : Pow Int Nat := @instPowNat Int Int.instNatPow

-- the last one, so that a number of no known type is a natural number
@[default_instance 20000]
instance natPower : Pow Nat Nat := @instPowNat Nat instNatPowNat

end SecurityScan
