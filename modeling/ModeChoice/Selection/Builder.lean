import ModeChoice.Selection.Model

/-!
# Building a model

A model needs an oracle, an estimator and an auditor; everything else has a
default: all modes for everybody, no constraints, every trip selected, failure
as the fallback, and a seed of zero.
-/

namespace ModeChoice

/-- What a model is to be made of. -/
structure ModelBuilder (σ τ : Type) where
  oracle : Oracle σ
  estimator : Estimator
  auditor : Auditor τ
  /-- The same modes for everybody, unless an availability is given too. -/
  modes : Option (List Mode) := none
  availability : Option Availability := none
  constraints : ConstraintFactory := (ConjunctionFactory.mk []).toFactory
  filter : TripFilter := TripFilter.everyTrip
  fallback : Fallback := .exception
  interpretation : TimeInterpretation := .endTimeThenDuration
  seed : UInt64 := 0

namespace ModelBuilder

variable {σ τ : Type}

/-- Who has which modes: an availability outdoes a list, and a list must not be
empty. -/
def resolveAvailability (builder : ModelBuilder σ τ) : Except ChoiceError Availability :=
  match builder.availability, builder.modes with
  | some availability, _ => .ok availability
  | none, some modes =>
      match TourModes.ofList modes with
      | .ok _ => .ok (Availability.fixed modes)
      | .error cause => .error (.config (.modes cause))
  | none, none => .ok (Availability.fixed Mode.all)

/-- The model, or why there is none. -/
def build (builder : ModelBuilder σ τ) : Except ChoiceError (Model σ τ) :=
  builder.resolveAvailability.map fun availability =>
    { oracle := builder.oracle
      estimator := builder.estimator
      availability
      constraints := builder.constraints
      filter := builder.filter
      fallback := builder.fallback
      interpretation := builder.interpretation
      auditor := builder.auditor
      seed := builder.seed }

end ModelBuilder

end ModeChoice
