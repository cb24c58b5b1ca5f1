/-! The sizes of machine words, which bound the numbers of some formats. -/

namespace PlatformOperator

/-- The number of values that `bits` bits hold. -/
def wordSize (bits : Nat) : Nat := Nat.pow 2 bits

end PlatformOperator
