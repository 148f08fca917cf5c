/-!
# Words

The integers that fit into words of 16, 32 and 64 bits.
-/

namespace Caretaker

/-- How many values a word of 64 bits has. -/
def wordSize : Nat := 18446744073709551616

/-- Whether an integer fits into 32 bits. -/
def isInt32 (value : Int) : Bool := -2147483648 ≤ value && value < 2147483648

/-- Whether an integer fits into 64 bits. -/
def isInt64 (value : Int) : Bool := -9223372036854775808 ≤ value && value < 9223372036854775808

/-- Whether an integer fits into 16 bits without a sign. -/
def isNat16 (value : Int) : Bool := 0 ≤ value && value < 65536

/-- Whether an integer fits into 64 bits without a sign. -/
def isNat64 (value : Int) : Bool := 0 ≤ value && value < wordSize

end Caretaker
