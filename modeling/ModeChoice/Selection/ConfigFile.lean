import ModeChoice.Document.Json
import ModeChoice.Document.Toml
import ModeChoice.Document.Travel
import ModeChoice.Selection.Config

/-!
# Configuration files

A configuration is a record whose fields may all be missing and that has no
others.  The record of the oracle names the kind of oracle under `type`, or in
the first place of a list; parameters that the kind does not have are passed
over, as long as their values are held.
-/

namespace ModeChoice

open Document (Record optional defaulted)

/-- What may stand beside a label inside the record of an oracle. -/
def Document.isVoidParameter (document : Document) : Bool :=
  document.isNothing || document.isEmptyTable

/-- What may stand beside a label elsewhere in a configuration file. -/
def Document.isEmptyContainer (document : Document) : Bool :=
  document.isEmptyTable || document.isEmptyList

namespace OracleConfig

/-- A record of parameters that may all be missing. -/
def parameters (names : List String) : Record :=
  ⟨names, true, true⟩

/-- The kind of an oracle, and its parameters without the kind. -/
def splitKind? : Document → Option (String × Document)
  | .table members => do
      let kind ← (← Record.member members "type").bind Document.text?
      return (kind, .table (members.filter fun member => member.1 != "type"))
  | .list (kind :: rest) => kind.text?.map fun name => (name, .list rest)
  | _ => none

/-- The parameters of a rule-based oracle. -/
def ruleBasedOf? (document : Document) : Option OracleConfig := do
  match ← (parameters ["preference", "walk_below_km"]).fields document with
  | [preference, walkBelow] =>
      return .ruleBased
        (← optional (Document.list? (Mode.ofDocument? Document.isVoidParameter)) preference)
        (← optional Document.real? walkBelow)
  | _ => none

/-- The parameter of a logit oracle. -/
def logitOf? (document : Document) : Option OracleConfig := do
  match ← (parameters ["scale"]).fields document with
  | [scale] => return .logit (← defaulted standardScale Document.real? scale)
  | _ => none

/-- The parameters of a language-model oracle. -/
def languageModelOf? (document : Document) : Option OracleConfig := do
  let names := ["model", "temperature", "host", "timeout_secs", "stock_personas"]
  match ← (parameters names).fields document with
  | [model, temperature, host, timeoutSeconds, stockPersonas] =>
      let standard : LanguageModelConfig := {}
      return .languageModel {
        model := ← defaulted standard.model Document.text? model
        temperature := ← defaulted standard.temperature Document.real? temperature
        host := ← defaulted standard.host Document.text? host
        timeoutSeconds :=
          ← defaulted standard.timeoutSeconds (Document.natural? Number.count64) timeoutSeconds
        stockPersonas := ← defaulted standard.stockPersonas Document.truth? stockPersonas }
  | _ => none

/-- Which oracle a document asks for. -/
def ofDocument? (document : Document) : Option OracleConfig :=
  if document.isHeld then do
    let (kind, rest) ← splitKind? document
    match kind with
    | "rule_based" => ruleBasedOf? rest
    | "logit" => logitOf? rest
    | "llm" => languageModelOf? rest
    | _ => none
  else none

end OracleConfig

namespace Config

/-- The record of a configuration. -/
def record : Record where
  names := ["modes", "fallback", "time_interpretation", "seed", "oracle"]
  isOpen := false
  mayStop := true

/-- The configuration that a document says; it may still have faults. -/
def ofDocument? (void : Document → Bool) (document : Document) : Option Config := do
  match ← record.fields document with
  | [modes, fallback, interpretation, seed, oracle] =>
      let standard : Config := {}
      return {
        modes := ← defaulted standard.modes (Document.list? (Mode.ofDocument? void)) modes
        fallback := ← defaulted standard.fallback (Fallback.ofDocument? void) fallback
        interpretation :=
          ← defaulted standard.interpretation (TimeInterpretation.ofDocument? void) interpretation
        seed :=
          (← defaulted standard.seed.toNat (Document.natural? Number.count64) seed).toUInt64
        oracle := ← defaulted standard.oracle OracleConfig.ofDocument? oracle }
  | _ => none

/-- The configuration in a TOML text; one with a fault is refused. -/
def ofToml (text : String) : Except ChoiceError Config :=
  match (Toml.read? text).bind (ofDocument? Document.isEmptyContainer) with
  | none => .error (.config .unreadable)
  | some config => config.validate.map fun _ => config

/-- The configuration in a file, of which there is none if the file is missing. -/
def ofFile : Option ByteArray → Except ChoiceError Config
  | none => .error (.file .notFound)
  | some content =>
      match String.fromUTF8? content with
      | none => .error (.file .notText)
      | some text => ofToml text

end Config

end ModeChoice
