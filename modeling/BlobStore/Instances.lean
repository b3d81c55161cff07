/-!
# Instances

Powers of numbers and the equality of bytes are those of the core library, also where another
library is in scope that has its own.
-/

attribute [default_instance high] instPowNat

attribute [instance (high)] instPowNat ByteArray.instDecidableEq
