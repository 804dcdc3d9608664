import ModeChoice.Number.Reading

/-!
# Numbers in TOML

Underscores may stand between two digits.  A whole number fits into 64 bits with
a sign; without a sign of its own it may be written in hexadecimal, octal or
binary digits.  A number with a point, an exponent or a name is real, and it
must not be beyond the largest double.
-/

namespace ModeChoice.Toml

/-- The digits of a row in which single underscores may stand between them. -/
def digitRow? (isDigit : Char → Bool) : List Char → Option (List Char)
  | [] => none
  | [c] => if isDigit c then some [c] else none
  | c :: '_' :: rest => if isDigit c then (digitRow? isDigit rest).map (c :: ·) else none
  | c :: rest => if isDigit c then (digitRow? isDigit rest).map (c :: ·) else none

/-- A digit or an underscore. -/
def isRowChar (c : Char) : Bool :=
  c.isDigit || c == '_'

/-- A whole number, if it fits. -/
def fitting? (value : Int) : Option Int :=
  if Number.fitsSigned value then some value else none

/-- A whole number in the digits of another base, after the letter for it. -/
def otherBase? : List Char → Option Int
  | 'x' :: row => read 16 Number.isHexDigit row
  | 'o' :: row => read 8 (fun c => c.isDigit && c < '8') row
  | 'b' :: row => read 2 (fun c => c == '0' || c == '1') row
  | _ => none
where
  /-- The number in the digits of a row. -/
  read (base : Nat) (isDigit : Char → Bool) (row : List Char) : Option Int :=
    (digitRow? isDigit row).bind fun digits => fitting? (Number.digitsValue base digits)

/-- The digits before the point: a zero only by itself. -/
def leadingDigits? (row : List Char) : Option (List Char) :=
  (digitRow? Char.isDigit row).filter fun digits =>
    row.length == 1 || digits.head? != some '0'

/-- The digits between the point and the exponent, with what is left. -/
def places? : List Char → Option (List Char × List Char)
  | '.' :: rest =>
      (digitRow? Char.isDigit (rest.takeWhile isRowChar)).map fun digits =>
        (digits, rest.dropWhile isRowChar)
  | rest => some ([], rest)

/-- The exponent, which is zero where there is none. -/
def exponent? : List Char → Option Int
  | [] => some 0
  | letter :: rest =>
      if letter == 'e' || letter == 'E' then
        let (negative, row) := Number.splitSign rest
        (digitRow? Char.isDigit row).map fun digits =>
          Number.signedInt negative (Number.digitsValue 10 digits)
      else none

/-- A number: whole, or real. -/
inductive Numeral where
  | whole (value : Int)
  | real (value : Float)

/-- A number in decimal digits, after its sign. -/
def decimal? (negative : Bool) (unsigned : List Char) : Option Numeral := do
  let leading ← leadingDigits? (unsigned.takeWhile isRowChar)
  match unsigned.dropWhile isRowChar with
  | [] =>
      (fitting? (Number.signedInt negative (Number.digitsValue 10 leading))).map .whole
  | c :: rest =>
      let (places, rest) ← places? (c :: rest)
      let exponent ← exponent? rest
      let value := Number.ofDecimal negative (Number.digitsValue 10 (leading ++ places))
        (exponent - places.length)
      if value == Number.infinity then none else some (.real value)

/-- A number. -/
def numeral? (word : List Char) : Option Numeral :=
  let (negative, unsigned) := Number.splitSign word
  if unsigned = "inf".toList then
    some (.real (if negative then Number.negativeInfinity else Number.infinity))
  else if unsigned = "nan".toList then some (.real Number.notANumber)
  else
    match word with
    | '0' :: letter :: row =>
        if letter.isAlpha && letter != 'e' && letter != 'E' then
          (otherBase? (letter :: row)).map .whole
        else decimal? negative unsigned
    | _ => decimal? negative unsigned

end ModeChoice.Toml
