import ModeChoice.Agent.Basic

/-!
# Profiles

What the attributes of a traveller say about driving, passes, age and income,
in the words that prompts use.  A missing or unreadable attribute is never an
error: a flag counts as false and a text reads as not known.
-/

namespace ModeChoice

namespace AttributeName

/-- Age in years. -/
def age : String := "age"

/-- `m`, `male`, `f` or `female`. -/
def sex : String := "sex"

/-- Class of the monthly household income, 0 to 8. -/
def incomeClass : String := "income_class"

/-- Whether the traveller has a driving licence. -/
def hasLicense : String := "has_license"

/-- Whether a car is at hand. -/
def carAvailable : String := "car_avail"

/-- Whether the traveller has a pass for the whole country. -/
def nationalPass : String := "pt_has_ga"

/-- Whether the traveller has a pass for a fare network. -/
def networkPass : String := "pt_has_verbund"

/-- Whether the traveller has a half-fare card. -/
def halfFareCard : String := "pt_has_halbtax"

/-- Whether the traveller is employed. -/
def employed : String := "employed"

/-- Kind of the municipality of residence. -/
def municipalityType : String := "municipality_type"

/-- Canton of residence. -/
def canton : String := "canton"

/-- A persona that the population brings along. -/
def persona : String := "persona"

end AttributeName

/-- The life stage at an age in years. -/
def ageGroup (age : Int64) : String :=
  if age < 18 then "minor"
  else if age < 30 then "young adult"
  else if age < 50 then "middle-aged"
  else if age < 65 then "senior professional"
  else "retiree"

/-- The monthly household income of an income class. -/
def incomeBracket (incomeClass : Option Int64) : String :=
  match incomeClass with
  | some 0 => "Less than CHF 2000"
  | some 1 => "2000 to 4000 CHF"
  | some 2 => "4001 to 6000 CHF"
  | some 3 => "6001 to 8000 CHF"
  | some 4 => "8001 to 10000 CHF"
  | some 5 => "10001 to 12000 CHF"
  | some 6 => "12001 to 14000 CHF"
  | some 7 => "14001 to 16000 CHF"
  | some 8 => "More than 16000 CHF"
  | _ => "unknown"

/-- A traveller in words. -/
structure Profile where
  age : Option Int64
  ageGroup : String
  gender : String
  income : String
  hasLicense : Bool
  carAvailable : Bool
  employed : Bool
  transitPass : String
  canton : String
  municipalityType : String
  deriving DecidableEq

namespace Profile

/-- The word for what nobody has told. -/
def notKnown : String := "Not known"

/-- The gender that a sex attribute tells. -/
def genderOf (sex : Option String) : String :=
  match sex.map Text.trim with
  | some word =>
      if word = "m" ∨ word = "male" then "male"
      else if word = "f" ∨ word = "female" then "female"
      else "unknown"
  | none => "unknown"

/-- A flag of the traveller; without a readable value it is not set. -/
def flag (attributes : Attributes) (name : String) : Bool :=
  (attributes.flag? name).getD false

/-- The public transport subscription in words; a full pass outdoes a half-fare
card. -/
def transitPassOf (attributes : Attributes) : String :=
  if flag attributes AttributeName.nationalPass || flag attributes AttributeName.networkPass then
    "Yes"
  else if flag attributes AttributeName.halfFareCard then "Half-fare card (50% reduction)"
  else "No"

/-- The profile of a traveller. -/
def ofAgent (agent : Agent) : Profile :=
  let attributes := agent.attributes
  let age := attributes.whole? AttributeName.age
  { age
    ageGroup := (age.map ModeChoice.ageGroup).getD "unknown"
    gender := genderOf (attributes.text? AttributeName.sex)
    income := incomeBracket (attributes.whole? AttributeName.incomeClass)
    hasLicense := flag attributes AttributeName.hasLicense
    carAvailable := flag attributes AttributeName.carAvailable
    employed := flag attributes AttributeName.employed
    transitPass := transitPassOf attributes
    canton := (attributes.text? AttributeName.canton).getD notKnown
    municipalityType := (attributes.text? AttributeName.municipalityType).getD notKnown }

/-- Whether the traveller may drive: a licence, and a car at hand. -/
def canDrive (profile : Profile) : Bool :=
  profile.hasLicense && profile.carAvailable

end Profile

end ModeChoice
