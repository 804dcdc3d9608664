import ModeChoice.Document.Basic

/-!
# JSON

A text is cut into tokens by an automaton that looks at one character at a
time, and the tokens are put together by another that keeps the containers
which are still open.  Nothing may stand before or after the value but white
space.

* A whole number without point and exponent is whole as long as it fits into 64
  bits, with a sign or without; minus zero and any other number is real.
* A number beyond every double, a text with half of a surrogate pair, a table
  with such a name, and a container in too deep a nest are well-formed and
  cannot be held.
* Control characters do not stand in texts as they are.
-/

namespace ModeChoice.Json

/-- A piece of the text. -/
inductive Token where
  | tableStart
  | tableEnd
  | listStart
  | listEnd
  | colon
  | comma
  /-- Nothing, a truth value, or a number. -/
  | plain (value : Document)
  /-- A text, unless it cannot be held. -/
  | quoted (value : Option String)
  deriving Inhabited

/-! ## Numbers -/

/-- Whether a number begins as it should: with a digit, a zero only before
something else, and a digit after a point. -/
def isNumeral (digits : List Char) : Bool :=
  let whole := digits.takeWhile Char.isDigit
  let rest := digits.dropWhile Char.isDigit
  let pointed := match rest with
    | '.' :: after => (after.head?.map Char.isDigit).getD false
    | _ => true
  (whole == ['0'] || (whole.head?.map (· != '0')).getD false) && pointed

/-- A real number, if there is a double for it. -/
def realNumber (value : Float) : Document :=
  if value.isFinite then .real value else .unheld

/-- A number. -/
def number? (word : List Char) : Option Document :=
  let negative := word.head? == some '-'
  let digits := if negative then word.tail else word
  if !isNumeral digits then none
  else if digits.all Char.isDigit then
    let size := Number.digitsValue 10 digits
    if size < Number.count64 && !negative then some (.whole size)
    else if 0 < size && size ≤ Number.count63 && negative then some (.whole (-size))
    else some (realNumber (Number.ofDecimal negative size 0))
  else
    (Number.readDecimal? digits).map fun value =>
      realNumber (Number.ofDecimal negative value.digits value.power)

/-- A word outside of texts. -/
def word? (word : List Char) : Option Document :=
  if word = "null".toList then some .nothing
  else if word = "true".toList then some (.truth true)
  else if word = "false".toList then some (.truth false)
  else number? word

/-! ## Texts -/

/-- The first half of a surrogate pair. -/
def isHighSurrogate (code : Nat) : Bool :=
  0xd800 ≤ code && code < 0xdc00

/-- The second half of a surrogate pair. -/
def isLowSurrogate (code : Nat) : Bool :=
  0xdc00 ≤ code && code < 0xe000

/-- The character of a surrogate pair. -/
def pairCode (high low : Nat) : Nat :=
  0x10000 + (high - 0xd800) * 0x400 + (low - 0xdc00)

/-- The characters of a list of codes, in which surrogates stand in pairs. -/
def joined? : List Nat → Option (List Char)
  | [] => some []
  | code :: rest =>
      if isLowSurrogate code then none
      else if isHighSurrogate code then
        match rest with
        | [] => none
        | low :: after =>
            if isLowSurrogate low then
              (joined? after).map (Char.ofNat (pairCode code low) :: ·)
            else none
      else (joined? rest).map (Char.ofNat code :: ·)

/-- The code of a character that is written with a backslash and a letter. -/
def escapeCode? : Char → Option Nat
  | '"' => some 0x22
  | '\\' => some 0x5c
  | '/' => some 0x2f
  | 'b' => some 0x08
  | 'f' => some 0x0c
  | 'n' => some 0x0a
  | 'r' => some 0x0d
  | 't' => some 0x09
  | _ => none

/-! ## Tokens -/

/-- Where the cutting automaton is; what it has read of a piece has the newest
first. -/
inductive Cutter where
  | between
  | inWord (read : List Char)
  | inText (codes : List Nat)
  | escaped (codes : List Nat)
  /-- In the digits of a code, some of which are still missing. -/
  | inCode (codes : List Nat) (missing value : Nat)

namespace Cutter

/-- White space between tokens. -/
def isSpace (c : Char) : Bool :=
  c == ' ' || c == '\n' || c == '\t' || c == '\r'

/-- A character of a word. -/
def isWordChar (c : Char) : Bool :=
  c.isAlphanum || c == '-' || c == '+' || c == '.'

/-- The automaton and the tokens after a character between two tokens. -/
def fromBetween (c : Char) : Option (Cutter × List Token) :=
  match c with
  | '\x7b' => some (.between, [.tableStart])
  | '\x7d' => some (.between, [.tableEnd])
  | '[' => some (.between, [.listStart])
  | ']' => some (.between, [.listEnd])
  | ':' => some (.between, [.colon])
  | ',' => some (.between, [.comma])
  | '"' => some (.inText [], [])
  | _ =>
      if isSpace c then some (.between, [])
      else if isWordChar c then some (.inWord [c], [])
      else none

/-- The automaton after a character, and the tokens that end with it. -/
def step : Cutter → Char → Option (Cutter × List Token)
  | .between, c => fromBetween c
  | .inWord read, c =>
      if isWordChar c then some (.inWord (c :: read), [])
      else do
        let value ← word? read.reverse
        let (after, tokens) ← fromBetween c
        return (after, .plain value :: tokens)
  | .inText codes, c =>
      if c = '"' then some (.between, [.quoted ((joined? codes.reverse).map String.ofList)])
      else if c = '\\' then some (.escaped codes, [])
      else if c.toNat < 0x20 then none
      else some (.inText (c.toNat :: codes), [])
  | .escaped codes, c =>
      if c = 'u' then some (.inCode codes 4 0, [])
      else (escapeCode? c).map fun code => (.inText (code :: codes), [])
  | .inCode codes missing value, c =>
      if Number.isHexDigit c then
        let value := value * 16 + Number.digitValue c
        if missing ≤ 1 then some (.inText (value :: codes), [])
        else some (.inCode codes (missing - 1) value, [])
      else none

/-- The tokens at the end of the text. -/
def finish : Cutter → Option (List Token)
  | .between => some []
  | .inWord read => (word? read.reverse).map fun value => [.plain value]
  | .inText _ | .escaped _ | .inCode _ _ _ => none

/-- The tokens of the rest of a text. -/
def run (cutter : Cutter) : List Char → Option (List Token)
  | [] => cutter.finish
  | c :: rest => do
      let (after, tokens) ← cutter.step c
      return tokens ++ (← after.run rest)

end Cutter

/-! ## Values -/

/-- A container that is still open, with what it has so far, newest first. -/
inductive Container where
  | list (items : List Document)
  /-- The name is the one that waits for its value. -/
  | table (members : List (Option String × Document)) (name : Option String)

/-- What may come next. -/
inductive Awaiting where
  | value
  /-- A value, or the end of the list that has just begun. -/
  | valueOrEnd
  /-- A comma, or the end of the container. -/
  | comma
  | name
  /-- A name, or the end of the table that has just begun. -/
  | nameOrEnd
  | colon
  | nothing
  deriving DecidableEq

/-- Where the joining automaton is: the open containers, innermost first, and
the value once it is complete. -/
structure Joiner where
  containers : List Container
  awaiting : Awaiting
  whole : Option Document

namespace Joiner

/-- How deep containers may be nested. -/
def deepest : Nat := 127

/-- Before the first token. -/
def start : Joiner :=
  ⟨[], .value, none⟩

/-- A complete value put where it belongs. -/
def put (value : Document) : List Container → Joiner
  | [] => ⟨[], .nothing, some value⟩
  | .list items :: outer => ⟨.list (value :: items) :: outer, .comma, none⟩
  | .table members name :: outer => ⟨.table ((name, value) :: members) none :: outer, .comma, none⟩

/-- The table of members, newest first; all names must be held. -/
def tableOf (members : List (Option String × Document)) : Document :=
  match members.reverse.mapM fun (name, value) => name.map fun known => (known, value) with
  | some named => .table named
  | none => .unheld

/-- A value, unless it is nested too deep. -/
def atDepth (depth : Nat) (value : Document) : Document :=
  if depth ≤ deepest then value else .unheld

/-- The end of the innermost container. -/
def close (isTable : Bool) (joiner : Joiner) : Option Joiner :=
  let depth := joiner.containers.length
  match joiner.containers, isTable with
  | .list items :: outer, false => some (put (atDepth depth (.list items.reverse)) outer)
  | .table members _ :: outer, true => some (put (atDepth depth (tableOf members)) outer)
  | _, _ => none

/-- The automaton after a token. -/
def step (joiner : Joiner) (token : Token) : Option Joiner :=
  let outer := joiner.containers
  match joiner.awaiting, token with
  | .value, .plain value | .valueOrEnd, .plain value => some (put value outer)
  | .value, .quoted text | .valueOrEnd, .quoted text =>
      some (put ((text.map Document.text).getD .unheld) outer)
  | .value, .listStart | .valueOrEnd, .listStart =>
      some ⟨.list [] :: outer, .valueOrEnd, none⟩
  | .value, .tableStart | .valueOrEnd, .tableStart =>
      some ⟨.table [] none :: outer, .nameOrEnd, none⟩
  | .valueOrEnd, .listEnd | .comma, .listEnd => joiner.close false
  | .nameOrEnd, .tableEnd | .comma, .tableEnd => joiner.close true
  | .comma, .comma =>
      match outer with
      | .list _ :: _ => some { joiner with awaiting := .value }
      | .table _ _ :: _ => some { joiner with awaiting := .name }
      | [] => none
  | .name, .quoted text | .nameOrEnd, .quoted text =>
      match outer with
      | .table members _ :: rest => some ⟨.table members text :: rest, .colon, none⟩
      | _ => none
  | .colon, .colon => some { joiner with awaiting := .value }
  | _, _ => none

end Joiner

/-- The document that a text of this notation says. -/
def read? (text : String) : Option Document := do
  let tokens ← Cutter.between.run text.toList
  let joiner ← tokens.foldlM Joiner.step Joiner.start
  joiner.whole

end ModeChoice.Json
