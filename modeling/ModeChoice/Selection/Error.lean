import ModeChoice.Identifier
import ModeChoice.ModeSet
import ModeChoice.Number.Decimal
import ModeChoice.Text.Quoted

/-!
# Errors of a selection

Why a run cannot be configured, and why a tour ends without a selection.
-/

namespace ModeChoice

/-- Why a configuration is not one. -/
inductive ConfigError where
  /-- The document cannot be read as a configuration. -/
  | unreadable
  | unknownFallback (text : String)
  | emptyModes
  /-- The modes given to a model make no set. -/
  | modes (cause : ModeError)
  | emptyPreference
  | negativeWalkLimit
  /-- The scale of the logit oracle is not above zero or not finite. -/
  | scaleNotPositive (scale : Float)
  | emptyModelName
  | negativeTemperature (temperature : Float)
  | zeroTimeout
  /-- No language model can be reached from here. -/
  | languageModelUnsupported
  deriving DecidableEq

/-- The wording of a configuration error. -/
def ConfigError.message : ConfigError → String
  | .unreadable => "the document is not a configuration"
  | .unknownFallback text => "unknown fallback behaviour " ++ Text.quoted text
  | .emptyModes => "`modes` must not be empty"
  | .modes cause => cause.message
  | .emptyPreference => "rule_based `preference` must not be empty"
  | .negativeWalkLimit => "`walk_below_km` must be non-negative"
  | .scaleNotPositive scale => "logit `scale` must be positive, got " ++ Number.shortest scale
  | .emptyModelName => "llm `model` must not be empty"
  | .negativeTemperature temperature =>
      "llm `temperature` must be non-negative, got " ++ Number.shortest temperature
  | .zeroTimeout => "llm `timeout_secs` must be positive"
  | .languageModelUnsupported => "the llm oracle needs the `llm` feature of dmc-choice"

/-- Why a file cannot be read as text. -/
inductive FileError where
  | notFound
  | notText
  deriving DecidableEq, Repr

/-- The wording of a file error. -/
def FileError.message : FileError → String
  | .notFound => "No such file or directory (os error 2)"
  | .notText => "stream did not contain valid UTF-8"

/-- Why there is no selection. -/
inductive ChoiceError where
  /-- A trip got no mode, and the policy is to fail then. -/
  | noFeasibleChoice (agent : AgentId) (trip : Nat)
  | emptyModeSet (agent : AgentId)
  | unknownAgent (agent : AgentId)
  | config (cause : ConfigError)
  | file (cause : FileError)
  deriving DecidableEq

/-- The wording of an error of a selection. -/
def ChoiceError.message : ChoiceError → String
  | .noFeasibleChoice agent trip => s!"no feasible mode for {agent.text}, trip {trip}"
  | .emptyModeSet agent => s!"no modes available to {agent.text} for this tour"
  | .unknownAgent agent => s!"{agent.text} is not in the population"
  | .config cause => "mode choice configuration error: " ++ cause.message
  | .file cause => "I/O error: " ++ cause.message

end ModeChoice
