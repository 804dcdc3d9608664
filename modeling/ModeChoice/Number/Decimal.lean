import ModeChoice.Number.Exact

/-!
# Decimal text of a double

Two ways to write a double in decimal digits, neither of them ever with an
exponent.

* `shortest` takes the fewest significant digits that read back as the same
  double; among those it takes the nearest to the value, and of two equally
  near the larger in size.
* `fixed` gives a set number of places after the point; the exact value is
  rounded, and a half goes to the even neighbour.
-/

namespace ModeChoice.Number

/-- The text of what is no number. -/
def notANumberText : String := "NaN"

/-- The text of an infinity without its sign. -/
def infinityText : String := "inf"

/-- The text with a minus in front if `negative`. -/
def signed (negative : Bool) (text : String) : String :=
  if negative then "-" ++ text else text

/-- A value `digits * 10 ^ power`. -/
structure Decimal where
  digits : Nat
  power : Int
  deriving Repr, DecidableEq

/-- How many decimal digits a number has. -/
def digitCount (n : Nat) : Nat :=
  (Nat.toDigits 10 n).length

/-- The double nearest to a decimal value, ties to the even one.  A value far
beyond the range of doubles is told by its number of digits alone. -/
def Decimal.nearest (value : Decimal) : Float :=
  let top := digitCount value.digits + value.power
  if value.digits = 0 ∨ top < -400 then 0
  else if 400 < top then infinity
  else Float.ofScientific value.digits (value.power < 0) value.power.natAbs

/-- The whole number `significand * 2 ^ exponent * 10 ^ power` cut off below
the point, and the remainder over the returned divisor. -/
def scaled (significand : Nat) (exponent power : Int) : Nat × Nat × Nat :=
  let numerator := significand * Nat.pow 2 exponent.toNat * Nat.pow 10 power.toNat
  let divisor := Nat.pow 2 (-exponent).toNat * Nat.pow 10 (-power).toNat
  (numerator / divisor, numerator % divisor, divisor)

/-- The power of ten just above a positive value `significand * 2 ^ exponent`
of a double: the value is at least a tenth of it and below it. -/
def magnitude (significand : Nat) (exponent : Int) : Int :=
  digitCount (scaled significand exponent 400).1 - 400

/-- The two neighbours of a value on the grid of multiples of `10 ^ power`,
the nearer one first and the upper one first where they are equally near. -/
def neighbours (significand : Nat) (exponent power : Int) : List Decimal :=
  let (below, rest, divisor) := scaled significand exponent (-power)
  let lower : Decimal := ⟨below, power⟩
  let upper : Decimal := ⟨below + 1, power⟩
  if 2 * rest < divisor then [lower, upper] else [upper, lower]

/-- The decimal value with the fewest digits that reads back as `x`, whose
size is `significand * 2 ^ exponent`; seventeen digits are always enough. -/
def shortestDecimal (x : Float) (significand : Nat) (exponent : Int) : Decimal :=
  let top := magnitude significand exponent
  let grids := (List.range 17).map fun count =>
    neighbours significand exponent (top - (count + 1 : Nat))
  (grids.flatten.find? fun value => value.nearest == x).getD ⟨significand, exponent⟩

/-- The digits with a point before the last `places` of them; a zero stands
before the point if no digit does. -/
def pointed (digits : List Char) (places : Nat) : List Char :=
  let padded := List.replicate (places + 1 - digits.length) '0' ++ digits
  let split := padded.length - places
  if places = 0 then padded else padded.take split ++ '.' :: padded.drop split

/-- The decimal value written out in full, without zeros at the end of its
places. -/
def Decimal.render (value : Decimal) : String :=
  if value.power < 0 then
    let text := pointed (Nat.toDigits 10 value.digits) value.power.natAbs
    let bare := text.reverse.dropWhile (· == '0')
    String.ofList (bare.dropWhile (· == '.')).reverse
  else
    String.ofList (Nat.toDigits 10 value.digits ++ List.replicate value.power.toNat '0')

/-- The shortest text that reads back as the same double. -/
def shortest (x : Float) : String :=
  match exact x with
  | .notANumber => notANumberText
  | .infinite negative => signed negative infinityText
  | .finite negative 0 _ => signed negative "0"
  | .finite negative significand exponent =>
      signed negative (shortestDecimal x.abs significand exponent).render

/-- The number nearest to a quotient with remainder, a half going to the even
neighbour. -/
def roundHalfEven (quotient rest divisor : Nat) : Nat :=
  if 2 * rest < divisor then quotient
  else if divisor < 2 * rest then quotient + 1
  else quotient + quotient % 2

/-- The text with exactly `places` digits after the point. -/
def fixed (places : Nat) (x : Float) : String :=
  match exact x with
  | .notANumber => notANumberText
  | .infinite negative => signed negative infinityText
  | .finite negative significand exponent =>
      let (quotient, rest, divisor) := scaled significand exponent places
      let digits := Nat.toDigits 10 (roundHalfEven quotient rest divisor)
      signed negative (String.ofList (pointed digits places))

end ModeChoice.Number
