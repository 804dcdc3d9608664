import ModeChoice.Number.Decimal

/-!
# Locations

Points of a flat map in metres.  The distance between two points is the length
of the straight line.
-/

namespace ModeChoice

/-- A point of the map, in metres. -/
structure Location where
  x : Float
  y : Float
  deriving DecidableEq, Inhabited

namespace Location

/-- The point where both axes meet. -/
def origin : Location := ⟨0, 0⟩

/-- The straight-line distance in metres. -/
def metresTo (here there : Location) : Float :=
  Number.hypotenuse (there.x - here.x) (there.y - here.y)

/-- The straight-line distance in kilometres. -/
def kilometresTo (here there : Location) : Float :=
  here.metresTo there * 0.001

/-- The point with one decimal place for each axis. -/
def text (here : Location) : String :=
  "(" ++ Number.fixed 1 here.x ++ ", " ++ Number.fixed 1 here.y ++ ")"

end Location

end ModeChoice
