import ModeChoice.Number.Bounds
import ModeChoice.Number.Decimal

/-!
# Reading numbers

A whole number is an optional sign and at least one ASCII digit, nothing else.
A number with places may also carry a point, an exponent, or be one of the
names of what is infinite or no number, in any case.  White space is never
skipped.
-/

namespace ModeChoice.Number

/-- Whether a sign at the front is a minus, and the text after the sign. -/
def splitSign : List Char → Bool × List Char
  | '-' :: rest => (true, rest)
  | '+' :: rest => (false, rest)
  | characters => (false, characters)

/-- A hexadecimal digit, in either case. -/
def isHexDigit (c : Char) : Bool :=
  c.isDigit || ('a' ≤ c && c ≤ 'f') || ('A' ≤ c && c ≤ 'F')

/-- The value of one digit; letters count from ten, in either case. -/
def digitValue (c : Char) : Nat :=
  if c.isDigit then c.toNat - '0'.toNat else c.toLower.toNat - 'a'.toNat + 10

/-- The value of a row of digits. -/
def digitsValue (base : Nat) (digits : List Char) : Nat :=
  digits.foldl (fun value c => value * base + digitValue c) 0

/-- The whole number with the given sign and size. -/
def signedInt (negative : Bool) (size : Nat) : Int :=
  if negative then -(size : Int) else size

/-- A whole number of any size. -/
def readInt? (characters : List Char) : Option Int :=
  let (negative, digits) := splitSign characters
  if digits.isEmpty || !digits.all Char.isDigit then none
  else some (signedInt negative (digitsValue 10 digits))

/-- Whether a whole number fits into 64 bits with a sign. -/
def fitsSigned (n : Int) : Bool :=
  -(count63 : Int) ≤ n && n < count63

/-- A whole number that fits into 64 bits with a sign. -/
def readInt64? (text : String) : Option Int64 :=
  (readInt? text.toList).bind fun n => if fitsSigned n then some (Int64.ofInt n) else none

/-- The double nearest to `± digits * 10 ^ power`. -/
def ofDecimal (negative : Bool) (digits : Nat) (power : Int) : Float :=
  let size := (Decimal.mk digits power).nearest
  if negative then -size else size

/-- The exponent after its letter: an optional sign and at least one digit. -/
def readExponent? : List Char → Option Int
  | [] => some 0
  | letter :: rest => if letter = 'e' ∨ letter = 'E' then readInt? rest else none

/-- A number without its sign, in digits: at least one before or after the
point, and then an exponent or the end. -/
def readDecimal? (characters : List Char) : Option Decimal :=
  let (whole, rest) := characters.span Char.isDigit
  let (places, rest) :=
    match rest with
    | '.' :: after => after.span Char.isDigit
    | other => ([], other)
  if whole.isEmpty && places.isEmpty then none
  else (readExponent? rest).map fun exponent =>
    ⟨digitsValue 10 (whole ++ places), exponent - places.length⟩

/-- A number with places, or one of `inf`, `infinity` and `nan` in any case. -/
def readFloat? (text : String) : Option Float :=
  let (negative, rest) := splitSign text.toList
  let word := rest.map Char.toLower
  if word = "inf".toList ∨ word = "infinity".toList then
    some (if negative then negativeInfinity else infinity)
  else if word = "nan".toList then some notANumber
  else (readDecimal? rest).map fun value => ofDecimal negative value.digits value.power

end ModeChoice.Number
