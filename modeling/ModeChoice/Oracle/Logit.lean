import ModeChoice.Oracle.Basic

/-!
# The logit oracle

Draws a mode with a probability in proportion to the exponential of its scaled
utility.  Infeasible modes weigh nothing; where every mode is infeasible the
first open one is proposed, and nothing is drawn.

Utilities are taken relative to the best one, whose weight is therefore one.
The exponential is a parameter: what is said about the draw needs no more of it
than its value at zero and its sign.
-/

namespace ModeChoice

/-- The scale of a logit oracle and the exponential it weighs with. -/
structure LogitRules where
  scale : Float
  exponential : Float → Float

namespace LogitRules

/-- The rules with a scale and the natural exponential. -/
def ofScale (scale : Float) : LogitRules :=
  ⟨scale, Float.exp⟩

/-- The largest utility of a feasible candidate; negative infinity if there is
none. -/
def bestUtility (candidates : List Candidate) : Float :=
  ((candidates.filter Candidate.isFeasible).map Candidate.utility).foldl Number.larger
    Number.negativeInfinity

/-- The weight of a candidate beside the best utility. -/
def weight (rules : LogitRules) (best : Float) (candidate : Candidate) : Float :=
  if candidate.isFeasible then rules.exponential (rules.scale * (candidate.utility - best))
  else 0

/-- The mode at whose weight a draw runs out, weights not above zero being
passed over. -/
def drawn : List (Candidate × Float) → Float → Option Mode
  | [], _ => none
  | (candidate, weight) :: rest, left =>
      if weight ≤ 0 then drawn rest left
      else if left < weight then some candidate.mode
      else drawn rest (left - weight)

/-- The last mode whose weight is above zero. -/
def lastWeighty (weighted : List (Candidate × Float)) : Option Mode :=
  (weighted.reverse.find? fun entry => 0 < entry.2).map fun entry => entry.1.mode

/-- The mode that a number between zero and one picks. -/
def sample (rules : LogitRules) (candidates : List Candidate) (unit : Float) : Option Mode :=
  let best := bestUtility candidates
  let weighted := candidates.map fun candidate => (candidate, rules.weight best candidate)
  let total := (weighted.map Prod.snd).foldl (· + ·) 0
  (drawn weighted (unit * total)).or (lastWeighty weighted)

/-- The oracle of the rules. -/
def oracle (rules : LogitRules) : Oracle Unit where
  name := "logit"
  propose state random context :=
    match context.validModes.first? with
    | none => { answer := .error .noValidModes, state, random, log := [] }
    | some first =>
        let candidates := context.estimates
        if (bestUtility candidates).isFinite then
          let (unit, after) := random.unit
          let mode := (rules.sample candidates unit).getD first
          { answer := .ok mode, state, random := after, log := [] }
        else { answer := .ok first, state, random, log := [] }

end LogitRules

end ModeChoice
