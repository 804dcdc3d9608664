import ModeChoice.Oracle.Persona
import ModeChoice.Oracle.Prompt
import ModeChoice.Oracle.Reply

/-!
# The language-model oracle

Asks a language model which mode the traveller would take.

* A single open mode is proposed as it is, and nobody is asked.
* The traveller's persona is looked up: the attribute, else what is remembered,
  else a new one, which is generated by the model or drawn from stock and then
  remembered.  So every trip of a traveller sees the same persona.
* The model is sent the trip with the profile, the persona, the trips decided
  so far and the travel times of the open modes, and its reply is read against
  the open modes.

The model is reached through a transport with a state of its own.
-/

namespace ModeChoice

/-- The way to a language model: an instruction and a request go in, a reply or
a failure comes out. -/
structure ChatTransport (τ : Type) where
  chat : τ → (system user : String) → Except OracleError String × τ

/-- Where the persona of a traveller without one comes from. -/
inductive PersonaSource where
  /-- The model writes one from the profile. -/
  | generate
  /-- One is drawn from stock. -/
  | sample
  deriving DecidableEq, Repr, Inhabited

/-- What the oracle keeps between proposals. -/
structure ChatState (τ : Type) where
  personas : PersonaCache
  transport : τ

/-- A persona or the failure to get one, and everything that is different after
it. -/
structure PersonaResult (τ : Type) where
  answer : Except OracleError String
  state : ChatState τ
  random : Random
  log : List LogLine

/-- A language-model oracle. -/
structure ChatOracle (τ : Type) where
  transport : ChatTransport τ
  personaSource : PersonaSource

namespace ChatOracle

variable {τ : Type}

/-- The persona that a traveller brings along, if it is not blank. -/
def ownPersona? (agent : Agent) : Option String :=
  ((agent.attributes.text? AttributeName.persona).map Text.trim).filter fun text => text != ""

/-- The first line of a reply that is not blank, trimmed and without quotation
marks at its ends. -/
def personaLine? (reply : String) : Option String :=
  (((Text.lines reply).map Text.trim).find? fun line => line != "").map (Text.trimMarks '"')

/-- The persona remembered for a traveller, new or not, with its log line. -/
def remembered (state : ChatState τ) (random : Random) (agent : AgentId) (persona : String) :
    PersonaResult τ :=
  let personas := state.personas.remember agent persona
  { answer := .ok ((personas.get? agent).getD persona)
    state := { state with personas }
    random
    log := [⟨.debug, agent.text ++ ": persona " ++ Text.quoted persona⟩] }

/-- A stock persona, remembered. -/
def drawnPersona (state : ChatState τ) (random : Random) (agent : AgentId) : PersonaResult τ :=
  let (persona, after) := drawPersona random
  remembered state after agent persona

/-- A persona written by the model, remembered; a reply without a line to use
gives way to a stock persona, and a failure leaves nothing behind. -/
def generatedPersona (oracle : ChatOracle τ) (state : ChatState τ) (random : Random)
    (agent : AgentId) (profile : Profile) : PersonaResult τ :=
  let (reply, transport) :=
    oracle.transport.chat state.transport Prompt.personaSystem (Prompt.persona profile)
  let state := { state with transport }
  match reply with
  | .error failure => { answer := .error failure, state, random, log := [] }
  | .ok text =>
      match personaLine? text with
      | some persona => remembered state random agent persona
      | none => drawnPersona state random agent

/-- The persona of a traveller. -/
def resolvePersona (oracle : ChatOracle τ) (state : ChatState τ) (random : Random)
    (agent : Agent) (profile : Profile) : PersonaResult τ :=
  match ownPersona? agent with
  | some persona => { answer := .ok persona, state, random, log := [] }
  | none =>
      match state.personas.get? agent.id with
      | some persona => { answer := .ok persona, state, random, log := [] }
      | none =>
          match oracle.personaSource with
          | .generate => oracle.generatedPersona state random agent.id profile
          | .sample => drawnPersona state random agent.id

/-- The model's choice for a trip, once the persona is known. -/
def askMode (oracle : ChatOracle τ) (state : ChatState τ) (random : Random)
    (context : TripContext) (profile : Profile) (persona : String) : Proposal (ChatState τ) :=
  let modes := context.validModes.modes
  let user := Prompt.trip context profile persona context.estimates
  let (reply, transport) :=
    oracle.transport.chat state.transport (Prompt.modeSystem modes) user
  let state := { state with transport }
  match reply with
  | .error failure => { answer := .error failure, state, random, log := [] }
  | .ok text =>
      let line := context.agent.id.text ++ s!" trip {context.trip.index}: model replied " ++
        Text.quoted text
      { answer := Reply.read text modes, state, random, log := [⟨.debug, line⟩] }

/-- One proposal. -/
def propose (oracle : ChatOracle τ) (state : ChatState τ) (random : Random)
    (context : TripContext) : Proposal (ChatState τ) :=
  match context.validModes.modes with
  | [] => { answer := .error .noValidModes, state, random, log := [] }
  | [only] => { answer := .ok only, state, random, log := [] }
  | _ :: _ :: _ =>
      let profile := Profile.ofAgent context.agent
      let resolved := oracle.resolvePersona state random context.agent profile
      match resolved.answer with
      | .error failure =>
          { answer := .error failure, state := resolved.state, random := resolved.random,
            log := resolved.log }
      | .ok persona =>
          let asked := oracle.askMode resolved.state resolved.random context profile persona
          { asked with log := resolved.log ++ asked.log }

/-- The oracle as a source of proposals. -/
def toOracle (oracle : ChatOracle τ) : Oracle (ChatState τ) where
  name := "llm"
  propose := oracle.propose

/-- What the oracle keeps before its first proposal. -/
def start (transport : τ) : ChatState τ :=
  ⟨PersonaCache.empty, transport⟩

/-- Forgets every persona and tells how many there were. -/
def clearPersonas (state : ChatState τ) : Nat × ChatState τ :=
  (state.personas.size, { state with personas := PersonaCache.empty })

end ChatOracle

end ModeChoice
