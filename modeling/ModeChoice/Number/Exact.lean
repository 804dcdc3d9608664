/-!
# The exact value of a double

A finite double is a whole number times a power of two.  This file takes a
double apart into that form, and holds the operations that read the form
rather than round it: the length of a hypotenuse rounded once, the larger and
the smaller of two numbers, and truncation to whole numbers.
-/

namespace ModeChoice.Number

/-- What a double stands for. -/
inductive Exact where
  | notANumber
  | infinite (negative : Bool)
  /-- The value `± significand * 2 ^ exponent`; zero keeps its sign. -/
  | finite (negative : Bool) (significand : Nat) (exponent : Int)
  deriving Repr, DecidableEq

open Float.Model in
/-- Whether the sign is the negative one. -/
def isNegative : UnpackedFloat.Sign → Bool
  | .negative => true
  | .positive => false

/-- The exact value of a double. -/
def exact (x : Float) : Exact :=
  match x.toModel.unpack with
  | .notANumber => .notANumber
  | .infinity sign => .infinite (isNegative sign)
  | .zero sign => .finite (isNegative sign) 0 0
  | .finite sign significand exponent _ => .finite (isNegative sign) significand exponent

/-- Positive infinity. -/
def infinity : Float := Float.ofBits 0x7ff0000000000000

/-- Negative infinity. -/
def negativeInfinity : Float := Float.ofBits 0xfff0000000000000

/-- The double that is no number. -/
def notANumber : Float := Float.ofBits 0x7ff8000000000000

/-- The larger of two numbers; the other one where one is no number, and the
first where they are equal. -/
def larger (first second : Float) : Float :=
  if first.isNaN then second else if first < second then second else first

/-- The smaller of two numbers; the other one where one is no number, and the
first where they are equal. -/
def smaller (first second : Float) : Float :=
  if first.isNaN then second else if second < first then second else first

/-- The number with everything below zero, and what is no number, moved up to
zero. -/
def clampedBelow (x : Float) : Float :=
  if 0 < x then x else 0

open Float.Model in
theorem lt_iff {first second : Float} :
    first < second ↔ first.toModel.unpack.compare second.toModel.unpack = some .lt := by
  change decide (first.toModel.unpack.lt second.toModel.unpack = true) = true ↔ _
  simp [UnpackedFloat.lt]

open Float.Model in
theorem le_iff {first second : Float} :
    first ≤ second ↔
      (first.toModel.unpack.compare second.toModel.unpack).any (·.isLE) = true := by
  change decide (first.toModel.unpack.le second.toModel.unpack = true) = true ↔ _
  exact decide_eq_true_iff

theorem le_of_lt {first second : Float} (less : first < second) : first ≤ second := by
  rw [le_iff, lt_iff.1 less]
  rfl

theorem clampedBelow_nonneg (x : Float) : 0 ≤ clampedBelow x := by
  unfold clampedBelow
  split
  · rename_i positive
    exact le_of_lt positive
  · decide

/-- The whole number towards zero, as a 64-bit signed integer: values out of
range go to the nearest end, and what is no number goes to zero. -/
def truncateSigned (x : Float) : Int64 :=
  x.toModel.toInt64

/-- The whole number towards zero, as a 64-bit unsigned integer: values out of
range go to the nearest end, and what is no number goes to zero. -/
def truncateUnsigned (x : Float) : UInt64 :=
  x.toUInt64

open Float.Model in
/-- The square root of `significand * 2 ^ (2 * halfExponent)`, rounded once to
the nearest double. -/
def squareRoot (significand : Nat) (halfExponent : Int) : Float :=
  if positive : 0 < significand then
    .ofModel <| .pack <| UnpackedFloat.sqrt Format.binary64
      (.finite .positive significand (2 * halfExponent) positive)
  else 0

/-- The length of the hypotenuse over two sides, rounded once: nothing
overflows or underflows on the way, and an infinite side makes it infinite
whatever the other side is. -/
def hypotenuse (x y : Float) : Float :=
  match exact x, exact y with
  | .infinite _, _ => infinity
  | _, .infinite _ => infinity
  | .notANumber, _ => notANumber
  | _, .notANumber => notANumber
  | .finite _ m e, .finite _ n f =>
      let low := min e f
      let side (significand : Nat) (exponent : Int) : Nat :=
        significand * Nat.pow 2 (exponent - low).toNat
      squareRoot (side m e * side m e + side n f * side n f) low

end ModeChoice.Number
