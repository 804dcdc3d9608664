/-!
# Bounds of machine words

How many numbers there are of a fixed width.
-/

namespace ModeChoice.Number

/-- How many numbers there are of 32 bits. -/
def count32 : Nat := 4294967296

/-- How many numbers there are of 64 bits. -/
def count64 : Nat := 18446744073709551616

/-- How many numbers of 64 bits and a sign are not below zero. -/
def count63 : Nat := 9223372036854775808

end ModeChoice.Number
