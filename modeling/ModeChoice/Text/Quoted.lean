import ModeChoice.Text.Printable

/-!
# Quoted text

A text between double quotes, on one line and with nothing hidden: a quote and
a backslash are escaped, the tabulator, the line ends and the zero character
have their letters, and any other character that does not print as itself is
written by its code in lower-case hexadecimal digits.
-/

namespace ModeChoice.Text

/-- The character as it stands between the quotes. -/
def quotedChar (c : Char) : List Char :=
  if c = '"' then ['\\', '"']
  else if c = '\\' then ['\\', '\\']
  else if c = '\t' then ['\\', 't']
  else if c = '\n' then ['\\', 'n']
  else if c = '\r' then ['\\', 'r']
  else if c = '\x00' then ['\\', '0']
  else if isPrintable c then [c]
  else ['\\', 'u', '\x7b'] ++ Nat.toDigits 16 c.toNat ++ ['\x7d']

/-- The text between double quotes. -/
def quoted (text : String) : String :=
  String.ofList ('"' :: text.toList.flatMap quotedChar ++ ['"'])

end ModeChoice.Text
