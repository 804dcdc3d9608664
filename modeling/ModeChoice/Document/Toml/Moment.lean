import ModeChoice.Number.Reading

/-!
# Moments in TOML

A date of the Gregorian calendar, a time of day that may have parts of a second,
or a date and a time with a letter or a space between them and perhaps an offset
from universal time.
-/

namespace ModeChoice.Toml

/-- The number in two digits. -/
def twoDigits? (first second : Char) : Option Nat :=
  if first.isDigit && second.isDigit then some (Number.digitsValue 10 [first, second]) else none

/-- Whether a year has a leap day. -/
def isLeap (year : Nat) : Bool :=
  year % 4 == 0 && (year % 100 != 0 || year % 400 == 0)

/-- How many days a month has. -/
def daysIn (year month : Nat) : Nat :=
  if month == 2 then if isLeap year then 29 else 28
  else if month == 4 || month == 6 || month == 9 || month == 11 then 30
  else 31

/-- What follows a date at the front of a word. -/
def afterDate? : List Char → Option (List Char)
  | y₁ :: y₂ :: y₃ :: y₄ :: '-' :: m₁ :: m₂ :: '-' :: d₁ :: d₂ :: rest => do
      let century ← twoDigits? y₁ y₂
      let year ← twoDigits? y₃ y₄
      let month ← twoDigits? m₁ m₂
      let day ← twoDigits? d₁ d₂
      if 1 ≤ month && month ≤ 12 && 1 ≤ day && day ≤ daysIn (century * 100 + year) month then
        some rest
      else none
  | _ => none

/-- What follows hours and minutes at the front of a word. -/
def afterMinutes? : List Char → Option (List Char)
  | h₁ :: h₂ :: ':' :: m₁ :: m₂ :: rest => do
      let hour ← twoDigits? h₁ h₂
      let minute ← twoDigits? m₁ m₂
      if hour < 24 && minute < 60 then some rest else none
  | _ => none

/-- What follows the parts of a second at the front of a word. -/
def afterParts? : List Char → Option (List Char)
  | '.' :: c :: rest => if c.isDigit then some (rest.dropWhile Char.isDigit) else none
  | '.' :: [] => none
  | rest => some rest

/-- What follows a time of day at the front of a word; a minute may have a leap
second. -/
def afterTime? (word : List Char) : Option (List Char) := do
  match ← afterMinutes? word with
  | ':' :: s₁ :: s₂ :: rest =>
      let second ← twoDigits? s₁ s₂
      if second ≤ 60 then afterParts? rest else none
  | _ => none

/-- Whether a word is nothing or an offset. -/
def isOffset : List Char → Bool
  | [] => true
  | [letter] => letter == 'Z' || letter == 'z'
  | sign :: rest => (sign == '+' || sign == '-') && afterMinutes? rest == some []

/-- Whether a word is a time of day with or without an offset. -/
def isTimeWithOffset (word : List Char) : Bool :=
  (afterTime? word).any isOffset

/-- Whether a word is a date and no more. -/
def isDate (word : List Char) : Bool :=
  afterDate? word == some []

/-- Whether a word is a moment. -/
def isMoment (word : List Char) : Bool :=
  afterTime? word == some [] ||
    match afterDate? word with
    | some [] => true
    | some (letter :: rest) => (letter == 'T' || letter == 't') && isTimeWithOffset rest
    | none => false

end ModeChoice.Toml
