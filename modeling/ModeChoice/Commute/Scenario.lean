import ModeChoice.Agent.Profile
import ModeChoice.Agent.Population
import ModeChoice.Selection.Config

/-!
# A commute

A small synthetic town: twelve travellers in two neighbourhoods, each with a
tour from home to work and back, and every third one with a stop at the market
on the way home.  Attributes differ from traveller to traveller in fixed
patterns, so every run of the scenario is the same but for its configuration.
-/

namespace ModeChoice.Commute

/-- How many travellers there are. -/
def travellerCount : Nat := 12

def northResidential : Location := ⟨0, 6000⟩

def southResidential : Location := ⟨1500, -2500⟩

def downtown : Location := ⟨0, 0⟩

def commercePark : Location := ⟨9000, 500⟩

def market : Location := ⟨800, 300⟩

/-- The attributes of a traveller. -/
def attributes (number : Nat) : Attributes :=
  Attributes.ofList
    [ (AttributeName.age, .whole (Int64.ofNat (22 + number * 7 % 50))),
      (AttributeName.sex, .text (if number % 2 = 0 then "f" else "m")),
      (AttributeName.incomeClass, .whole (Int64.ofNat (number % 5 + 1))),
      (AttributeName.hasLicense, .flag (number % 4 != 3)),
      (AttributeName.carAvailable, .flag (number % 3 != 0)),
      (AttributeName.halfFareCard, .flag (number % 2 == 1)),
      (AttributeName.employed, .flag true),
      (AttributeName.municipalityType, .text "urban"),
      (AttributeName.canton, .text "Zurich") ]

/-- A traveller. -/
def traveller (number : Nat) : Agent :=
  ⟨⟨number.toUInt32⟩, attributes number⟩

/-- The travellers of the scenario. -/
def population : Population :=
  Population.ofList ((List.range travellerCount).map traveller)

/-- Where a traveller lives. -/
def homeOf (number : Nat) : Location :=
  if number < travellerCount / 2 then northResidential else southResidential

/-- Where a traveller works. -/
def workOf (number : Nat) : Location :=
  if number < travellerCount / 2 then downtown else commercePark

/-- When a traveller leaves home: at seven, or up to three quarters of an hour
later. -/
def leavingTime (number : Nat) : Float :=
  7 * 3600 + Float.ofNat (number % 4) * 900

/-- The stop on the way home. -/
def errands (number : Nat) : List Activity :=
  if number % 3 = 0 then [⟨"shop", market, none, some 1800⟩] else []

/-- What a traveller does on the day. -/
def activities (number : Nat) : List Activity :=
  let home := homeOf number
  [ ⟨"home", home, some (leavingTime number), none⟩,
    ⟨"work", workOf number, some (leavingTime number + 9 * 3600), none⟩ ] ++
    errands number ++ [⟨"home", home, none, none⟩]

/-- The tour of a traveller, planned by car. -/
def tour (number : Nat) : Except TourError Tour :=
  let activities := activities number
  Tour.ofActivities ⟨number.toUInt32⟩ activities
    (List.replicate (activities.length - 1) Mode.car)

/-- The tours of the scenario. -/
def tours : Except TourError (List Tour) :=
  (List.range travellerCount).mapM tour

/-- The configuration that holds where none is given. -/
def standardConfig : Config where
  modes := Mode.all
  fallback := .initialChoice
  interpretation := .endTimeThenDuration
  seed := 42
  oracle := .logit 1.5

/-- How far one walks and cycles, in kilometres. -/
def distanceLimits : ModeTable Float :=
  ModeTable.ofList [(.walk, 4), (.bike, 15)]

/-- What every choice is held to. -/
def constraints : ConjunctionFactory :=
  ⟨[ ConstraintFactory.vehicleContinuity,
     (Constraint.maxDistance distanceLimits).forEveryTour,
     (Constraint.maxTravelTime (2 * 3600) ModeTable.empty).forEveryTour,
     (Constraint.timeWindow 1800).forEveryTour ]⟩

/-- The model of a configuration in the scenario. -/
def model {τ : Type} (config : Config) (auditor : Auditor τ) :
    Except ChoiceError (Model Unit τ) := do
  let builder ← config.modelBuilder Estimator.urban auditor
  { builder with
    availability := some (Availability.byDriving config.modes)
    constraints := constraints.toFactory
    filter := TripFilter.excluding ["outside"] }.build

end ModeChoice.Commute
