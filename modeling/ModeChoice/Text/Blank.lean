/-!
# Blank characters

The characters that count as white space at the two ends of a text, and the
text that is left when they are taken off.  The set is the Unicode property
`White_Space`; the zero-width characters `U+200B` and `U+FEFF` and the
separators `U+001C` to `U+001F` are outside it.
-/

namespace ModeChoice.Text

/-- A character with the Unicode property `White_Space`. -/
def isBlank (c : Char) : Bool :=
  let code := c.toNat
  (0x9 ≤ code && code ≤ 0xd) || code == 0x20 || code == 0x85 || code == 0xa0 ||
    code == 0x1680 || (0x2000 ≤ code && code ≤ 0x200a) || code == 0x2028 ||
    code == 0x2029 || code == 0x202f || code == 0x205f || code == 0x3000

/-- The characters from the first one that is not blank. -/
def trimLeft (characters : List Char) : List Char :=
  characters.dropWhile isBlank

/-- The characters up to the last one that is not blank. -/
def trimRight (characters : List Char) : List Char :=
  (characters.reverse.dropWhile isBlank).reverse

/-- The text between its first and its last character that is not blank. -/
def trim (text : String) : String :=
  String.ofList (trimRight (trimLeft text.toList))

/-- Some character of the text is not blank. -/
def hasInk (text : String) : Bool :=
  text.toList.any fun c => !isBlank c

/-- The text without every copy of `mark` at either end. -/
def trimMarks (mark : Char) (text : String) : String :=
  let opened := text.toList.dropWhile (· == mark)
  String.ofList (opened.reverse.dropWhile (· == mark)).reverse

/-- The lines of a text: its parts between line feeds. -/
def lines (text : String) : List String :=
  (text.toList.splitOn '\n').map String.ofList

end ModeChoice.Text
