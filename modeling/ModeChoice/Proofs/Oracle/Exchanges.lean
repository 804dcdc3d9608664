import ModeChoice.Oracle.Chat

/-!
# What the language-model oracle sends

The oracle reaches the language model over its transport alone, so what it sends is read
off a transport that remembers.  Remembering changes nothing about a proposal.  The two
requests that the oracle has, for a persona and for a mode, can be told apart, and a
request for a mode tells which persona it quotes.
-/

namespace ModeChoice

/-! ## The requests -/

namespace Prompt

theorem joinLines_cons {first : String} {rest : List String} (more : rest ≠ []) :
    joinLines (first :: rest) = first ++ "\n" ++ joinLines rest := by
  cases rest with
  | nil => exact absurd rfl more
  | cons second rest => exact String.intercalate_cons_cons

/-- What lines begin with is what the first of them begins with. -/
theorem take_joinLines {first : String} {rest : List String} {count : Nat}
    (within : count ≤ first.toList.length) :
    (joinLines (first :: rest)).toList.take count = first.toList.take count := by
  cases rest with
  | nil => rfl
  | cons second rest =>
      rw [joinLines_cons (by simp), String.toList_append, String.toList_append,
        List.append_assoc, List.take_append_of_le_length within]

/-- Lines that come to the same text do not differ in a single one of them. -/
theorem eq_of_joinLines_eq {front back : List String} {line other : String}
    (same : joinLines (front ++ line :: back) = joinLines (front ++ other :: back)) :
    line = other := by
  induction front with
  | nil =>
      cases back with
      | nil => exact same
      | cons next back =>
          have apart (text : String) : joinLines (text :: next :: back) =
              text ++ "\n" ++ joinLines (next :: back) :=
            joinLines_cons (by simp)
          rw [List.nil_append, List.nil_append, apart, apart] at same
          exact (String.append_left_inj _).1 ((String.append_left_inj _).1 same)
  | cons first front ih =>
      rw [List.cons_append, List.cons_append, joinLines_cons (by simp),
        joinLines_cons (by simp)] at same
      exact ih ((String.append_right_inj _).1 same)

/-- The instructions for a mode and for a persona differ in their second words. -/
theorem modeSystem_ne_personaSystem (allowed : List Mode) :
    modeSystem allowed ≠ personaSystem := by
  intro same
  have words := congrArg (fun text => text.toList.take 5) same
  simp only [modeSystem, personaSystem] at words
  rw [take_joinLines (by decide), take_joinLines (by decide)] at words
  exact absurd words (by decide)

/-- The request for a mode tells which persona it quotes. -/
theorem trip_injective {context : TripContext} {profile : Profile} {persona other : String}
    {estimates : List Candidate}
    (same : trip context profile persona estimates = trip context profile other estimates) :
    persona = other := by
  have lines : "- Persona: " ++ persona = "- Persona: " ++ other :=
    @eq_of_joinLines_eq [_, _, _, _, _, _, _, _, _, _, _, _, _, _] _ _ _ same
  exact (String.append_right_inj _).1 lines

end Prompt

/-! ## The exchanges -/

/-- One exchange with a language model. -/
structure Exchange where
  system : String
  user : String
  reply : Except OracleError String

namespace Exchange

/-- The model is asked for a persona. -/
def AsksPersona (exchange : Exchange) : Prop :=
  exchange.system = Prompt.personaSystem

/-- The model is asked for the mode of a trip, and is told that the traveller has this
persona. -/
def Quotes (exchange : Exchange) (context : TripContext) (persona : String) : Prop :=
  exchange.system = Prompt.modeSystem context.validModes.modes ∧
    exchange.user = Prompt.trip context (Profile.ofAgent context.agent) persona context.estimates

variable {exchange : Exchange} {context : TripContext} {persona other : String}

theorem Quotes.not_asksPersona (quotes : exchange.Quotes context persona) :
    ¬ exchange.AsksPersona := by
  intro asks
  exact Prompt.modeSystem_ne_personaSystem _ (quotes.1.symm.trans asks)

theorem Quotes.unique (quotes : exchange.Quotes context persona)
    (again : exchange.Quotes context other) : persona = other :=
  Prompt.trip_injective (quotes.2.symm.trans again.2)

end Exchange

/-- The transport that remembers what went over it. -/
def ChatTransport.logged {τ : Type} (transport : ChatTransport τ) :
    ChatTransport (τ × List Exchange) where
  chat state system user :=
    let (reply, after) := transport.chat state.1 system user
    (reply, after, state.2 ++ [⟨system, user, reply⟩])

theorem ChatTransport.chat_logged {τ : Type} (transport : ChatTransport τ) (state : τ)
    (log : List Exchange) (system user : String) :
    transport.logged.chat (state, log) system user =
      ((transport.chat state system user).1, (transport.chat state system user).2,
        log ++ [⟨system, user, (transport.chat state system user).1⟩]) := rfl

namespace ChatOracle

variable {τ : Type}

/-- The oracle on a transport that remembers. -/
def logged (oracle : ChatOracle τ) : ChatOracle (τ × List Exchange) where
  transport := oracle.transport.logged
  personaSource := oracle.personaSource

@[simp]
theorem transport_logged (oracle : ChatOracle τ) :
    oracle.logged.transport = oracle.transport.logged := rfl

end ChatOracle

/-! ## Remembering changes nothing -/

section Forgetting

variable {τ : Type}

/-- The state with nothing sent so far. -/
def ChatState.unsent (state : ChatState τ) : ChatState (τ × List Exchange) :=
  ⟨state.personas, state.transport, []⟩

/-- The state without what was sent. -/
def ChatState.forget (state : ChatState (τ × List Exchange)) : ChatState τ :=
  ⟨state.personas, state.transport.1⟩

/-- The result without what was sent. -/
def PersonaResult.forget (result : PersonaResult (τ × List Exchange)) : PersonaResult τ :=
  { result with state := result.state.forget }

/-- The proposal without what was sent. -/
def Proposal.forget (proposal : Proposal (ChatState (τ × List Exchange))) :
    Proposal (ChatState τ) :=
  { proposal with state := proposal.state.forget }

namespace ChatOracle

variable (oracle : ChatOracle τ) (state : ChatState (τ × List Exchange)) (random : Random)

theorem generatedPersona_forget (agent : AgentId) (profile : Profile) :
    oracle.generatedPersona state.forget random agent profile =
      (oracle.logged.generatedPersona state random agent profile).forget := by
  rcases state with ⟨personas, transport, log⟩
  cases answered : (oracle.transport.chat transport Prompt.personaSystem
      (Prompt.persona profile)).1 with
  | error failure =>
      simp [generatedPersona, ChatState.forget, ChatTransport.chat_logged, answered,
        PersonaResult.forget]
  | ok text =>
      cases line : personaLine? text with
      | some persona =>
          simp [generatedPersona, ChatState.forget, ChatTransport.chat_logged, answered, line,
            PersonaResult.forget, remembered]
      | none =>
          simp [generatedPersona, ChatState.forget, ChatTransport.chat_logged, answered, line,
            PersonaResult.forget, drawnPersona, remembered]

theorem resolvePersona_forget (agent : Agent) (profile : Profile) :
    oracle.resolvePersona state.forget random agent profile =
      (oracle.logged.resolvePersona state random agent profile).forget := by
  unfold resolvePersona
  cases ownPersona? agent with
  | some persona => rfl
  | none =>
      have personas : state.forget.personas = state.personas := rfl
      rw [personas]
      cases state.personas.get? agent.id with
      | some persona => rfl
      | none =>
          have source : oracle.logged.personaSource = oracle.personaSource := rfl
          rw [source]
          cases oracle.personaSource with
          | generate => exact oracle.generatedPersona_forget state random agent.id profile
          | sample => rfl

theorem askMode_forget (context : TripContext) (profile : Profile) (persona : String) :
    oracle.askMode state.forget random context profile persona =
      (oracle.logged.askMode state random context profile persona).forget := by
  rcases state with ⟨personas, transport, log⟩
  cases answered : (oracle.transport.chat transport
      (Prompt.modeSystem context.validModes.modes)
      (Prompt.trip context profile persona context.estimates)).1 with
  | error failure =>
      simp [askMode, ChatState.forget, ChatTransport.chat_logged, answered, Proposal.forget]
  | ok text =>
      simp [askMode, ChatState.forget, ChatTransport.chat_logged, answered, Proposal.forget]

/-- What was sent makes no difference to a proposal. -/
theorem propose_forget (context : TripContext) :
    oracle.propose state.forget random context =
      (oracle.logged.propose state random context).forget := by
  unfold propose
  split
  · rfl
  · rfl
  · simp only [resolvePersona_forget]
    cases answered : (oracle.logged.resolvePersona state random context.agent
        (Profile.ofAgent context.agent)).answer with
    | error failure => simp [PersonaResult.forget, Proposal.forget, answered]
    | ok persona =>
        simp only [PersonaResult.forget, answered, askMode_forget]
        rfl

end ChatOracle

end Forgetting

namespace ChatOracle

variable {τ : Type}

/-- What goes over the transport during one proposal. -/
def exchanges (oracle : ChatOracle τ) (state : ChatState τ) (random : Random)
    (context : TripContext) : List Exchange :=
  (oracle.logged.propose state.unsent random context).state.transport.2

end ChatOracle

end ModeChoice
