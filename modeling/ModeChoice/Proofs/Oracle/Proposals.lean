import ModeChoice.Proofs.Oracle.Lookups

/-!
# A proposal of the language-model oracle

A proposal sends nothing, or a request for a mode, or a request for a persona and after
that one perhaps a request for a mode.  `ChatOracle.Course` tells when it does which, and
what becomes of the personas.  Whatever is claimed of a single proposal is proved by
looking at its five cases.
-/

namespace ModeChoice

namespace ChatOracle

variable {τ : Type}

/-- The request for a persona of the traveller. -/
def personaExchange (context : TripContext) (reply : Except OracleError String) : Exchange where
  system := Prompt.personaSystem
  user := Prompt.persona (Profile.ofAgent context.agent)
  reply := reply

/-- The request for a mode, once the persona is known. -/
def modeExchange (context : TripContext) (persona : String)
    (reply : Except OracleError String) : Exchange where
  system := Prompt.modeSystem context.validModes.modes
  user := Prompt.trip context (Profile.ofAgent context.agent) persona context.estimates
  reply := reply

theorem quotes_modeExchange (context : TripContext) (persona : String)
    (reply : Except OracleError String) :
    (modeExchange context persona reply).Quotes context persona :=
  ⟨rfl, rfl⟩

/-- The ways that a proposal can go, and what it sends. -/
inductive Course (oracle : ChatOracle τ) (state : ChatState τ) (context : TripContext)
    (proposal : Proposal (ChatState τ)) (exchanges : List Exchange) : Prop where
  /-- At most one mode is open. -/
  | alone (few : context.validModes.modes.length ≤ 1) (same : proposal.state = state)
      (silent : exchanges = [])
  /-- The traveller has brought a persona along. -/
  | brought {persona : String} {reply : Except OracleError String}
      (several : 2 ≤ context.validModes.modes.length)
      (own : ownPersona? context.agent = some persona)
      (same : proposal.state.personas = state.personas)
      (sent : exchanges = [modeExchange context persona reply])
  /-- The traveller has a persona in the cache. -/
  | known {persona : String} {reply : Except OracleError String}
      (several : 2 ≤ context.validModes.modes.length)
      (plain : ownPersona? context.agent = none)
      (cached : state.personas.get? context.agent.id = some persona)
      (same : proposal.state.personas = state.personas)
      (sent : exchanges = [modeExchange context persona reply])
  /-- A persona is written by the model or drawn from stock, and is cached. -/
  | found {persona : String} {requests : List Exchange} {reply : Except OracleError String}
      (several : 2 ≤ context.validModes.modes.length)
      (plain : ownPersona? context.agent = none)
      (unknown : state.personas.get? context.agent.id = none)
      (requested : oracle.personaSource = .generate ∧
          (∃ text, requests = [personaExchange context (.ok text)]) ∨
        oracle.personaSource = .sample ∧ requests = [])
      (stored : proposal.state.personas = state.personas.remember context.agent.id persona)
      (sent : exchanges = requests ++ [modeExchange context persona reply])
  /-- The model writes none. -/
  | refused {failure : OracleError}
      (several : 2 ≤ context.validModes.modes.length)
      (plain : ownPersona? context.agent = none)
      (unknown : state.personas.get? context.agent.id = none)
      (source : oracle.personaSource = .generate)
      (failed : proposal.answer = .error failure)
      (same : proposal.state.personas = state.personas)
      (sent : exchanges = [personaExchange context (.error failure)])

variable {oracle : ChatOracle τ} {state : ChatState τ} {random : Random}
  {context : TripContext}

/-- What the oracle comes to when it looks up the persona for a proposal. -/
def personaFor (oracle : ChatOracle τ) (state : ChatState τ) (random : Random)
    (context : TripContext) : PersonaResult (τ × List Exchange) :=
  oracle.logged.resolvePersona state.unsent random context.agent (Profile.ofAgent context.agent)

theorem personaFor_of_brought {persona : String}
    (own : ownPersona? context.agent = some persona) :
    oracle.personaFor state random context = ⟨.ok persona, state.unsent, random, []⟩ := by
  simp only [personaFor, resolvePersona, own]

theorem personaFor_of_known {persona : String} (plain : ownPersona? context.agent = none)
    (cached : state.personas.get? context.agent.id = some persona) :
    oracle.personaFor state random context = ⟨.ok persona, state.unsent, random, []⟩ := by
  have same : state.unsent.personas = state.personas := rfl
  simp only [personaFor, resolvePersona, plain, same, cached]

/-- A persona that is not known yet is refused by the model, or it is found after a request
that the model answers, or without one. -/
theorem personaFor_of_unknown (plain : ownPersona? context.agent = none)
    (unknown : state.personas.get? context.agent.id = none) :
    (∃ failure, oracle.personaSource = .generate ∧
      (oracle.personaFor state random context).answer = .error failure ∧
      (oracle.personaFor state random context).state.personas = state.personas ∧
      (oracle.personaFor state random context).state.transport.2 =
        [personaExchange context (.error failure)]) ∨
    ∃ persona requests,
      (oracle.personaSource = .generate ∧
          (∃ text, requests = [personaExchange context (.ok text)]) ∨
        oracle.personaSource = .sample ∧ requests = []) ∧
      (oracle.personaFor state random context).answer = .ok persona ∧
      (oracle.personaFor state random context).state.personas =
        state.personas.remember context.agent.id persona ∧
      (oracle.personaFor state random context).state.transport.2 = requests := by
  have course : PersonaQuery.Course
      ⟨oracle, state.transport, random, context.agent, Profile.ofAgent context.agent⟩
      state.personas (oracle.personaFor state random context).answer
      (oracle.personaFor state random context).state.personas
      (oracle.personaFor state random context).state.transport.2 :=
    PersonaQuery.course_resolveLogged _ _
  generalize (oracle.personaFor state random context).answer = answer at course ⊢
  generalize (oracle.personaFor state random context).state.personas = after at course ⊢
  generalize (oracle.personaFor state random context).state.transport.2 = sent at course ⊢
  cases course with
  | brought own => cases plain.symm.trans own
  | known _ cached => cases unknown.symm.trans cached
  | drawn _ _ source _ => exact .inr ⟨_, [], .inr ⟨source, rfl⟩, rfl, rfl, rfl⟩
  | replied _ _ source _ => exact .inr ⟨_, _, .inl ⟨source, _, rfl⟩, rfl, rfl, rfl⟩
  | refused _ _ source => exact .inl ⟨_, source, rfl, rfl, rfl⟩

/-- Asking for a mode sends one request, and leaves the personas alone. -/
theorem askMode_sends (oracle : ChatOracle τ) (state : ChatState (τ × List Exchange))
    (random : Random) (context : TripContext) (persona : String) :
    ∃ reply, (oracle.logged.askMode state random context (Profile.ofAgent context.agent)
        persona).state.transport.2 =
          state.transport.2 ++ [modeExchange context persona reply] ∧
      (oracle.logged.askMode state random context (Profile.ofAgent context.agent)
        persona).state.personas = state.personas := by
  rcases state with ⟨personas, transport, log⟩
  refine ⟨(oracle.transport.chat transport (Prompt.modeSystem context.validModes.modes)
    (Prompt.trip context (Profile.ofAgent context.agent) persona context.estimates)).1, ?_⟩
  unfold askMode
  simp only [transport_logged, ChatTransport.chat_logged]
  split <;> exact ⟨rfl, rfl⟩

theorem propose_of_few (few : context.validModes.modes.length < 2) :
    (oracle.logged.propose state.unsent random context).state = state.unsent := by
  unfold propose
  split
  · rfl
  · rfl
  · rename_i more
    simp only [more, List.length_cons] at few
    omega

theorem propose_of_several (several : 2 ≤ context.validModes.modes.length) :
    oracle.logged.propose state.unsent random context =
      match (oracle.personaFor state random context).answer with
      | .error failure =>
          { answer := .error failure
            state := (oracle.personaFor state random context).state
            random := (oracle.personaFor state random context).random
            log := (oracle.personaFor state random context).log }
      | .ok persona =>
          let asked := oracle.logged.askMode (oracle.personaFor state random context).state
            (oracle.personaFor state random context).random context
            (Profile.ofAgent context.agent) persona
          { asked with log := (oracle.personaFor state random context).log ++ asked.log } := by
  unfold propose
  split
  · rename_i none
    simp [none] at several
  · rename_i only
    simp [only] at several
  · rfl

/-- Once there is a persona, one request for a mode follows. -/
theorem sends_of_resolved {persona : String} (several : 2 ≤ context.validModes.modes.length)
    (resolved : (oracle.personaFor state random context).answer = .ok persona) :
    ∃ reply, oracle.exchanges state random context =
        (oracle.personaFor state random context).state.transport.2 ++
          [modeExchange context persona reply] ∧
      (oracle.propose state random context).state.personas =
        (oracle.personaFor state random context).state.personas := by
  rcases oracle.askMode_sends (oracle.personaFor state random context).state
    (oracle.personaFor state random context).random context persona with ⟨reply, sent, same⟩
  have forgotten := oracle.propose_forget state.unsent random context
  rw [propose_of_several several, resolved] at forgotten
  refine ⟨reply, ?_, ?_⟩
  · rw [exchanges, propose_of_several several, resolved]
    exact sent
  · exact (congrArg (fun proposal => proposal.state.personas) forgotten).trans same

/-- A persona that is at hand leaves the personas alone, and nothing is sent before. -/
theorem sends_of_at_hand {persona : String} (several : 2 ≤ context.validModes.modes.length)
    (resolved : oracle.personaFor state random context =
      ⟨.ok persona, state.unsent, random, []⟩) :
    ∃ reply, oracle.exchanges state random context = [modeExchange context persona reply] ∧
      (oracle.propose state random context).state.personas = state.personas := by
  have answered := congrArg PersonaResult.answer resolved
  rcases sends_of_resolved several answered with ⟨reply, sent, same⟩
  rw [resolved] at sent same
  exact ⟨reply, sent, same⟩

theorem sends_of_refused {failure : OracleError}
    (several : 2 ≤ context.validModes.modes.length)
    (refused : (oracle.personaFor state random context).answer = .error failure) :
    oracle.exchanges state random context =
        (oracle.personaFor state random context).state.transport.2 ∧
      (oracle.propose state random context).answer = .error failure ∧
      (oracle.propose state random context).state.personas =
        (oracle.personaFor state random context).state.personas := by
  have forgotten := oracle.propose_forget state.unsent random context
  rw [propose_of_several several, refused] at forgotten
  refine ⟨?_, ?_, ?_⟩
  · rw [exchanges, propose_of_several several, refused]
  · exact congrArg Proposal.answer forgotten
  · exact congrArg (fun proposal => proposal.state.personas) forgotten

/-- Every proposal goes one of the five ways. -/
theorem course_propose (oracle : ChatOracle τ) (state : ChatState τ) (random : Random)
    (context : TripContext) :
    oracle.Course state context (oracle.propose state random context)
      (oracle.exchanges state random context) := by
  rcases Nat.lt_or_ge context.validModes.modes.length 2 with few | several
  · have same := congrArg Proposal.state (oracle.propose_forget state.unsent random context)
    rw [Proposal.forget, propose_of_few few] at same
    have silent : oracle.exchanges state random context = [] := by
      rw [exchanges, propose_of_few few]
      rfl
    exact .alone (Nat.le_of_lt_succ few) same silent
  · cases own : ownPersona? context.agent with
    | some persona =>
        rcases sends_of_at_hand several (personaFor_of_brought own) with ⟨reply, sent, same⟩
        exact .brought several own same sent
    | none =>
        cases cached : state.personas.get? context.agent.id with
        | some persona =>
            rcases sends_of_at_hand several (personaFor_of_known own cached) with
              ⟨reply, sent, same⟩
            exact .known several own cached same sent
        | none =>
            rcases personaFor_of_unknown own cached with
              ⟨failure, source, refused, same, sent⟩ |
              ⟨persona, requests, requested, resolved, stored, sent⟩
            · rcases sends_of_refused several refused with ⟨all, answer, kept⟩
              exact .refused several own cached source answer (kept.trans same)
                (all.trans sent)
            · rcases sends_of_resolved several resolved with ⟨reply, all, kept⟩
              rw [sent] at all
              exact .found several own cached requested (kept.trans stored) all

/-! ## What follows from the course -/

variable {proposal : Proposal (ChatState τ)} {exchanges : List Exchange} {agent : AgentId}
  {persona : String}

namespace Course

/-- A persona in the cache outlasts a proposal. -/
theorem keeps (course : oracle.Course state context proposal exchanges)
    (cached : state.personas.get? agent = some persona) :
    proposal.state.personas.get? agent = some persona := by
  cases course with
  | alone few same silent => rw [same, cached]
  | brought several own same sent => rw [same, cached]
  | known several plain here same sent => rw [same, cached]
  | found several plain unknown requested stored sent =>
      rw [stored, PersonaCache.get?_remember, cached]
      simp
  | refused several plain unknown source failed same sent => rw [same, cached]

/-- A proposal caches a persona for its own traveller at most, and only if it needs one. -/
theorem of_cached (course : oracle.Course state context proposal exchanges)
    (unknown : state.personas.get? agent = none)
    (cached : proposal.state.personas.get? agent ≠ none) :
    context.agent.id = agent ∧ ownPersona? context.agent = none ∧
      2 ≤ context.validModes.modes.length := by
  cases course with
  | alone few same silent => exact absurd unknown (same ▸ cached)
  | brought several own same sent => exact absurd unknown (same ▸ cached)
  | known several plain here same sent => exact absurd unknown (same ▸ cached)
  | found several plain missing requested stored sent =>
      rw [stored, PersonaCache.get?_remember] at cached
      by_cases mine : context.agent.id = agent
      · exact ⟨mine, plain, several⟩
      · simp [mine, unknown] at cached
  | refused several plain missing source failed same sent =>
      exact absurd unknown (same ▸ cached)

/-- The requests for a persona are answered where a proposal goes on. -/
theorem reply_of_requested {requests : List Exchange} {exchange : Exchange}
    (requested : oracle.personaSource = .generate ∧
        (∃ text, requests = [personaExchange context (.ok text)]) ∨
      oracle.personaSource = .sample ∧ requests = [])
    (among : exchange ∈ requests) :
    exchange.AsksPersona ∧ ∃ text, exchange.reply = .ok text := by
  rcases requested with ⟨_, text, rfl⟩ | ⟨_, rfl⟩
  · cases List.mem_singleton.1 among
    exact ⟨rfl, text, rfl⟩
  · cases among

/-- A request that asks for no persona quotes the one that is in the cache afterwards. -/
theorem quotes (course : oracle.Course state context proposal exchanges)
    (plain : ownPersona? context.agent = none) {exchange : Exchange}
    (sent : exchange ∈ exchanges) (other : ¬ exchange.AsksPersona) :
    ∃ persona, exchange.Quotes context persona ∧
      proposal.state.personas.get? context.agent.id = some persona := by
  cases course with
  | alone few same silent =>
      subst silent
      cases sent
  | brought several own same all => cases plain.symm.trans own
  | known several missing cached same all =>
      subst all
      cases List.mem_singleton.1 sent
      exact ⟨_, quotes_modeExchange .., by rw [same, cached]⟩
  | found several missing unknown requested stored all =>
      subst all
      rcases List.mem_append.1 sent with early | last
      · exact absurd (reply_of_requested requested early).1 other
      · cases List.mem_singleton.1 last
        refine ⟨_, quotes_modeExchange .., ?_⟩
        rw [stored, PersonaCache.get?_remember]
        simp [unknown]
  | refused several missing unknown source failed same all =>
      subst all
      cases List.mem_singleton.1 sent
      exact absurd rfl other

/-- A traveller in the cache is asked for a mode alone. -/
theorem quotes_cached (course : oracle.Course state context proposal exchanges)
    (plain : ownPersona? context.agent = none)
    (cached : state.personas.get? context.agent.id = some persona) :
    ∀ exchange ∈ exchanges, exchange.Quotes context persona := by
  intro exchange sent
  cases course with
  | alone few same silent =>
      subst silent
      cases sent
  | brought several own same all => cases plain.symm.trans own
  | known several missing here same all =>
      cases here.symm.trans cached
      subst all
      cases List.mem_singleton.1 sent
      exact quotes_modeExchange ..
  | found several missing unknown requested stored all => cases unknown.symm.trans cached
  | refused several missing unknown source failed same all => cases unknown.symm.trans cached

/-- Where the model writes no persona, the proposal is over. -/
theorem of_failed (course : oracle.Course state context proposal exchanges)
    {exchange : Exchange} (sent : exchange ∈ exchanges) (asks : exchange.AsksPersona)
    {failure : OracleError} (lost : exchange.reply = .error failure) :
    exchanges = [exchange] ∧ proposal.state.personas = state.personas ∧
      proposal.answer = .error failure ∧ oracle.personaSource = .generate ∧
      state.personas.get? context.agent.id = none := by
  have requests {persona : String} {reply : Except OracleError String}
      (same : exchange = modeExchange context persona reply) : False := by
    subst same
    exact (quotes_modeExchange context persona reply).not_asksPersona asks
  cases course with
  | alone few same silent =>
      subst silent
      cases sent
  | brought several own same all =>
      subst all
      exact (requests (List.mem_singleton.1 sent)).elim
  | known several missing cached same all =>
      subst all
      exact (requests (List.mem_singleton.1 sent)).elim
  | found several missing unknown requested stored all =>
      subst all
      rcases List.mem_append.1 sent with early | last
      · rcases (reply_of_requested requested early).2 with ⟨text, answered⟩
        cases answered.symm.trans lost
      · exact (requests (List.mem_singleton.1 last)).elim
  | refused several missing unknown source failed same all =>
      subst all
      cases List.mem_singleton.1 sent
      cases lost
      exact ⟨rfl, same, failed, source, unknown⟩

/-- A traveller without any persona is written one first. -/
theorem asks_first (course : oracle.Course state context proposal exchanges)
    (source : oracle.personaSource = .generate)
    (plain : ownPersona? context.agent = none)
    (several : 2 ≤ context.validModes.modes.length)
    (unknown : state.personas.get? context.agent.id = none) :
    ∃ reply, exchanges.head? = some (personaExchange context reply) := by
  cases course with
  | alone few same silent => omega
  | brought _ own same all => cases plain.symm.trans own
  | known _ _ cached same all => cases unknown.symm.trans cached
  | found _ _ _ requested stored all =>
      subst all
      rcases requested with ⟨_, text, rfl⟩ | ⟨drawn, _⟩
      · exact ⟨.ok text, rfl⟩
      · cases source.symm.trans drawn
  | refused _ _ _ _ failed same all =>
      subst all
      exact ⟨_, rfl⟩

theorem of_brought (course : oracle.Course state context proposal exchanges)
    (own : ownPersona? context.agent = some persona) :
    proposal.state.personas = state.personas ∧
      (2 ≤ context.validModes.modes.length →
        ∃ exchange, exchanges = [exchange] ∧ exchange.Quotes context persona) := by
  cases course with
  | alone few same silent =>
      refine ⟨by rw [same], ?_⟩
      intro several
      omega
  | brought several mine same all =>
      cases mine.symm.trans own
      exact ⟨same, fun _ => ⟨_, all, quotes_modeExchange ..⟩⟩
  | known several plain cached same all => cases plain.symm.trans own
  | found several plain unknown requested stored all => cases plain.symm.trans own
  | refused several plain unknown source failed same all => cases plain.symm.trans own

theorem of_few (course : oracle.Course state context proposal exchanges)
    (few : context.validModes.modes.length ≤ 1) :
    exchanges = [] ∧ proposal.state = state := by
  cases course with
  | alone _ same silent => exact ⟨silent, same⟩
  | brought several _ _ _ => omega
  | known several _ _ _ _ => omega
  | found several _ _ _ _ _ => omega
  | refused several _ _ _ _ _ _ => omega

end Course

end ChatOracle

end ModeChoice
