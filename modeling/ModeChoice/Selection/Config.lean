import ModeChoice.Oracle.Chat
import ModeChoice.Oracle.Logit
import ModeChoice.Oracle.Preference
import ModeChoice.Selection.Builder

/-!
# Configurations

The part of a model that is written in a file: the modes, the fallback policy,
how times are interpreted, the seed, and which oracle proposes.  Everything has
a standard value.  A configuration is checked before anything is built from it;
the modes come first, then the parameters of the oracle in their order.
-/

namespace ModeChoice

/-- How a language model is reached and asked. -/
structure LanguageModelConfig where
  model : String := "llama3.2:3b"
  temperature : Float := 1.2
  host : String := "http://localhost:11434"
  /-- Seconds until a request is given up. -/
  timeoutSeconds : Nat := 60
  /-- Whether personas are drawn from stock. -/
  stockPersonas : Bool := false
  deriving DecidableEq

/-- Which oracle proposes, with its parameters. -/
inductive OracleConfig where
  /-- Without a preference list the standard one holds. -/
  | ruleBased (preference : Option (List Mode)) (walkBelow : Option Float)
  | logit (scale : Float)
  | languageModel (parameters : LanguageModelConfig)
  deriving DecidableEq

namespace OracleConfig

instance : Inhabited OracleConfig := ⟨.ruleBased none none⟩

/-- The scale of a logit oracle where none is given. -/
def standardScale : Float := 1

/-- Whether a limit is below zero or not finite. -/
def isBadLimit (limit : Float) : Bool :=
  !limit.isFinite || limit < 0

/-- What is wrong with the parameters, if anything. -/
def fault? : OracleConfig → Option ConfigError
  | .ruleBased preference walkBelow =>
      if preference == some [] then some .emptyPreference
      else if walkBelow.any isBadLimit then some .negativeWalkLimit
      else none
  | .logit scale =>
      if !scale.isFinite || scale ≤ 0 then some (.scaleNotPositive scale) else none
  | .languageModel parameters =>
      if !Text.hasInk parameters.model then some .emptyModelName
      else if isBadLimit parameters.temperature then
        some (.negativeTemperature parameters.temperature)
      else if parameters.timeoutSeconds = 0 then some .zeroTimeout
      else none

/-- The rules of a rule-based oracle. -/
def preferenceRules (preference : Option (List Mode)) (walkBelow : Option Float) :
    PreferenceRules :=
  let rules := (preference.map PreferenceRules.ofPreference).getD PreferenceRules.standard
  { rules with walkBelow := walkBelow.or rules.walkBelow }

/-- The oracle; no language model can be reached from here. -/
def build (config : OracleConfig) : Except ConfigError (Oracle Unit) :=
  match config.fault? with
  | some fault => .error fault
  | none =>
      match config with
      | .ruleBased preference walkBelow => .ok (preferenceRules preference walkBelow).oracle
      | .logit scale => .ok (LogitRules.ofScale scale).oracle
      | .languageModel _ => .error .languageModelUnsupported

/-- Where personas come from. -/
def personaSource : OracleConfig → PersonaSource
  | .languageModel parameters => if parameters.stockPersonas then .sample else .generate
  | .ruleBased _ _ | .logit _ => .generate

end OracleConfig

/-- The part of a model that is written in a file. -/
structure Config where
  modes : List Mode := Mode.all
  fallback : Fallback := .exception
  interpretation : TimeInterpretation := .endTimeThenDuration
  seed : UInt64 := 0
  oracle : OracleConfig := .ruleBased none none
  deriving DecidableEq

namespace Config

instance : Inhabited Config := ⟨{}⟩

/-- What is wrong with the configuration, if anything. -/
def fault? (config : Config) : Option ConfigError :=
  if config.modes.isEmpty then some .emptyModes else config.oracle.fault?

/-- Fails if anything is wrong with the configuration. -/
def validate (config : Config) : Except ChoiceError Unit :=
  match config.fault? with
  | some fault => .error (.config fault)
  | none => .ok ()

/-- The beginning of a model with an estimator and an auditor. -/
def modelBuilder {τ : Type} (config : Config) (estimator : Estimator) (auditor : Auditor τ) :
    Except ChoiceError (ModelBuilder Unit τ) := do
  config.validate
  let oracle ← config.oracle.build.mapError .config
  return {
    oracle
    estimator
    auditor
    modes := some config.modes
    fallback := config.fallback
    interpretation := config.interpretation
    seed := config.seed }

end Config

end ModeChoice
