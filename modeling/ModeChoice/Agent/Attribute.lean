import ModeChoice.Number.Reading
import ModeChoice.Text.Blank
import ModeChoice.Text.Lowercase

/-!
# Attribute values

One attribute of a traveller.  Population files store the same field as a
flag, a number or a text, depending on who wrote them, so the readings below
are lenient: every kind that can answer a question does.
-/

namespace ModeChoice

/-- One attribute value, in the kind in which it was stored. -/
inductive AttributeValue where
  | flag (value : Bool)
  | whole (value : Int64)
  | real (value : Float)
  | text (value : String)
  deriving DecidableEq

namespace AttributeValue

/-- A text as a truth value: `true`, `yes`, `1` against `false`, `no`, `0`, in
any ASCII case and with any white space around. -/
def readFlag? (text : String) : Option Bool :=
  let word := Text.lowercaseAscii (Text.trim text)
  if word = "true" ∨ word = "yes" ∨ word = "1" then some true
  else if word = "false" ∨ word = "no" ∨ word = "0" then some false
  else none

/-- The value as a truth value; a number is true unless it is zero. -/
def asFlag? : AttributeValue → Option Bool
  | .flag value => some value
  | .whole value => some (value != 0)
  | .real value => some !(value == 0)
  | .text value => readFlag? value

/-- The value as a whole number: a finite number is cut off at its point, and a
text is read without the white space around it. -/
def asWhole? : AttributeValue → Option Int64
  | .flag _ => none
  | .whole value => some value
  | .real value => if value.isFinite then some (Number.truncateSigned value) else none
  | .text value => Number.readInt64? (Text.trim value)

/-- The value as a number with places. -/
def asReal? : AttributeValue → Option Float
  | .flag _ => none
  | .whole value => some (.ofModel (.ofInt64 value))
  | .real value => some value
  | .text value => Number.readFloat? (Text.trim value)

/-- The text of a text value. -/
def asText? : AttributeValue → Option String
  | .text value => some value
  | .flag _ | .whole _ | .real _ => none

/-- The value as it is shown. -/
def render : AttributeValue → String
  | .flag value => if value then "true" else "false"
  | .whole value => toString value.toInt
  | .real value => Number.shortest value
  | .text value => value

end AttributeValue

end ModeChoice
