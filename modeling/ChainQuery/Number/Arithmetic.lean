/-!
# Arithmetic of whole numbers

Powers and sums of whole numbers are those of the core library in the modules that open
`ChainQuery.CoreArithmetic`. They stay so beside an algebraic library, which would find them through
its own structures; a definition with a literal exponent names its type.
-/

namespace ChainQuery.CoreArithmetic

attribute [scoped instance (2000)] instPowNat instNatPowNat Int.instNatPow Zero.ofOfNat0

end ChainQuery.CoreArithmetic
