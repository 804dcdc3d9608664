import Mathlib.Data.List.Infix
import ModeChoice.Proofs.Oracle.Proposals
import ModeChoice.Proofs.Retry.Feasibility
import ModeChoice.Rehearsal

/-!
# The personas over time

A language-model oracle is asked for proposals, by any travellers in any order, and now
and then it is told to forget the personas.  What it sends over time is settled turn by
turn, and a turn does one of three things to the persona of a traveller: it leaves it
alone, it caches one where there was none, or it forgets all of them.  So all requests for
a traveller quote the same persona until the next clearing, and a persona is asked for
again only after the model has failed to write one.
-/

namespace ModeChoice

/-- What a language-model oracle can be asked to do. -/
inductive ChatCall where
  | proposal (random : Random) (context : TripContext)
  | clearing

/-- What it answers. -/
inductive ChatAnswer where
  | proposed (answer : Except OracleError Mode)
  | cleared (count : Nat)

/-- One call with all that comes of it. -/
structure ChatTurn (τ : Type) where
  call : ChatCall
  before : ChatState τ
  answer : ChatAnswer
  /-- What was sent to the language model, with its replies. -/
  exchanges : List Exchange
  after : ChatState τ

namespace ChatTurn

variable {τ : Type}

/-- The turn is a proposal for a traveller who has brought no persona along. -/
def Serves (turn : ChatTurn τ) (agent : AgentId) (context : TripContext) : Prop :=
  (∃ random, turn.call = .proposal random context) ∧ context.agent.id = agent ∧
    ChatOracle.ownPersona? context.agent = none

/-- The turn caches a persona for a traveller. -/
def Caches (turn : ChatTurn τ) (agent : AgentId) : Prop :=
  turn.before.personas.get? agent = none ∧ turn.after.personas.get? agent ≠ none

end ChatTurn

/-- The travellers in a cache can be listed, each once. -/
theorem PersonaCache.exists_agents (cache : PersonaCache) :
    ∃ agents : List AgentId, agents.Nodup ∧ agents.length = cache.size ∧
      ∀ agent, agent ∈ agents ↔ cache.get? agent ≠ none := by
  refine ⟨cache.entries.keys, Std.HashMap.nodup_keys, Std.HashMap.length_keys, ?_⟩
  intro agent
  rw [Std.HashMap.mem_keys, Std.HashMap.mem_iff_isSome_getElem?, Option.isSome_iff_ne_none]
  rfl

namespace ChatOracle

variable {τ : Type}

/-- The turn of a call. -/
def turn (oracle : ChatOracle τ) (state : ChatState τ) : ChatCall → ChatTurn τ
  | .proposal random context =>
      { call := .proposal random context
        before := state
        answer := .proposed (oracle.propose state random context).answer
        exchanges := oracle.exchanges state random context
        after := (oracle.propose state random context).state }
  | .clearing =>
      { call := .clearing
        before := state
        answer := .cleared (clearPersonas state).1
        exchanges := []
        after := (clearPersonas state).2 }

/-- The turns of calls, one after the other. -/
def turns (oracle : ChatOracle τ) : ChatState τ → List ChatCall → List (ChatTurn τ)
  | _, [] => []
  | state, call :: rest =>
      oracle.turn state call :: oracle.turns (oracle.turn state call).after rest

/-- What holds of the personas over the turns of an oracle. -/
structure Remembers (turns : List (ChatTurn τ)) : Prop where
  /-- Until the next clearing all requests for a mode quote the same persona. -/
  constant : ∀ stretch, stretch <:+: turns → (∀ turn ∈ stretch, turn.call ≠ .clearing) →
    ∀ agent, ∃ persona, ∀ turn ∈ stretch, ∀ context, turn.Serves agent context →
      ∀ exchange ∈ turn.exchanges, exchange.AsksPersona ∨ exchange.Quotes context persona
  /-- The persona that a request quotes is in the cache afterwards. -/
  quoted : ∀ turn ∈ turns, ∀ agent context, turn.Serves agent context →
    ∀ exchange ∈ turn.exchanges, ∀ persona, exchange.Quotes context persona →
      turn.after.personas.get? agent = some persona
  /-- Until a clearing a persona in the cache stays there as it is. -/
  kept : ∀ first rest, first :: rest <:+: turns →
    (∀ turn ∈ first :: rest, turn.call ≠ .clearing) →
    ∀ agent persona, first.before.personas.get? agent = some persona →
      ∀ turn ∈ first :: rest, turn.after.personas.get? agent = some persona
  /-- Once a request has quoted a persona, none is asked for any more. -/
  settled : ∀ first rest, first :: rest <:+: turns →
    (∀ turn ∈ rest, turn.call ≠ .clearing) →
    ∀ agent context, first.Serves agent context →
      (∃ exchange ∈ first.exchanges, ¬ exchange.AsksPersona) →
      ∀ turn ∈ rest, ∀ later, turn.Serves agent later →
        ∀ exchange ∈ turn.exchanges, ¬ exchange.AsksPersona
  /-- A request for a persona that fails is all that is sent, and nothing is cached. -/
  failed : ∀ turn ∈ turns, ∀ exchange ∈ turn.exchanges, exchange.AsksPersona →
    ∀ failure, exchange.reply = .error failure →
      turn.exchanges = [exchange] ∧ turn.after.personas = turn.before.personas ∧
        turn.answer = .proposed (.error failure)
  /-- The next proposal for the traveller that needs a persona asks for it again. -/
  again : ∀ first between next, first :: between ++ [next] <:+: turns →
    ∀ agent context later, first.Serves agent context →
      (∃ exchange ∈ first.exchanges, exchange.AsksPersona ∧
        ∃ failure, exchange.reply = .error failure) →
      (∀ turn ∈ between, ∀ other, turn.Serves agent other →
        other.validModes.modes.length ≤ 1) →
      next.Serves agent later → 2 ≤ later.validModes.modes.length →
      ∃ reply, next.exchanges.head? = some (personaExchange later reply)
  /-- A persona that a traveller has brought along is quoted without white space around it,
  and the cache has no part in that. -/
  brought : ∀ turn ∈ turns, ∀ random context, turn.call = .proposal random context →
    ∀ text, context.agent.attributes.text? AttributeName.persona = some text →
      Text.trim text ≠ "" →
      turn.after.personas = turn.before.personas ∧
        (2 ≤ context.validModes.modes.length →
          ∃ exchange, turn.exchanges = [exchange] ∧ exchange.Quotes context (Text.trim text))
  /-- Where no choice is left nothing is sent, and nothing changes. -/
  alone : ∀ turn ∈ turns, ∀ random context, turn.call = .proposal random context →
    context.validModes.modes.length ≤ 1 →
      turn.exchanges = [] ∧ turn.after = turn.before
  /-- A clearing forgets all personas, and tells for how many travellers one was cached
  since the last clearing. -/
  cleared : ∀ front stretch last back, turns = front ++ stretch ++ last :: back →
    (∀ turn ∈ front.getLast?, turn.call = .clearing) →
    (∀ turn ∈ stretch, turn.call ≠ .clearing) → last.call = .clearing →
      (∀ agent, last.after.personas.get? agent = none) ∧ last.exchanges = [] ∧
        ∃ agents : List AgentId, agents.Nodup ∧ last.answer = .cleared agents.length ∧
          ∀ agent, agent ∈ agents ↔ ∃ turn ∈ stretch, turn.Caches agent

variable {oracle : ChatOracle τ} {state : ChatState τ} {context : TripContext}
  {agent : AgentId} {persona : String}

/-! ## One turn -/

section Turns

variable {call : ChatCall} {random : Random}

theorem course_turn (oracle : ChatOracle τ) (state : ChatState τ) (random : Random)
    (context : TripContext) :
    oracle.Course state context (oracle.propose state random context)
      (oracle.turn state (.proposal random context)).exchanges :=
  oracle.course_propose state random context

@[simp]
theorem call_turn (oracle : ChatOracle τ) (state : ChatState τ) (call : ChatCall) :
    (oracle.turn state call).call = call := by
  cases call <;> rfl

@[simp]
theorem before_turn (oracle : ChatOracle τ) (state : ChatState τ) (call : ChatCall) :
    (oracle.turn state call).before = state := by
  cases call <;> rfl

/-- A turn that serves a traveller is a proposal. -/
theorem course_of_serves (serves : (oracle.turn state call).Serves agent context) :
    ∃ proposal, oracle.Course state context proposal (oracle.turn state call).exchanges ∧
      (oracle.turn state call).after = proposal.state ∧ context.agent.id = agent ∧
      ownPersona? context.agent = none := by
  rcases serves with ⟨⟨random, given⟩, mine, plain⟩
  rw [call_turn] at given
  subst given
  exact ⟨_, oracle.course_turn state random context, rfl, mine, plain⟩

theorem kept_by_turn (going : call ≠ .clearing)
    (cached : state.personas.get? agent = some persona) :
    (oracle.turn state call).after.personas.get? agent = some persona := by
  cases call with
  | proposal random context => exact (oracle.course_turn state random context).keeps cached
  | clearing => exact absurd rfl going

/-- Where a turn puts a traveller into the cache, it serves this traveller. -/
theorem serves_of_cached (unknown : state.personas.get? agent = none)
    (cached : (oracle.turn state call).after.personas.get? agent ≠ none) :
    ∃ context, (oracle.turn state call).Serves agent context ∧
      2 ≤ context.validModes.modes.length := by
  cases call with
  | proposal random context =>
      rcases (oracle.course_turn state random context).of_cached unknown cached with
        ⟨mine, plain, several⟩
      exact ⟨context, ⟨⟨random, rfl⟩, mine, plain⟩, several⟩
  | clearing => exact absurd (PersonaCache.get?_empty agent) cached

end Turns

/-! ## Turns one after the other -/

/-- What the oracle keeps after calls. -/
def stateAfter (oracle : ChatOracle τ) : ChatState τ → List ChatCall → ChatState τ
  | state, [] => state
  | state, call :: rest => oracle.stateAfter (oracle.turn state call).after rest

theorem turns_append (oracle : ChatOracle τ) (state : ChatState τ)
    (first second : List ChatCall) :
    oracle.turns state (first ++ second) =
      oracle.turns state first ++ oracle.turns (oracle.stateAfter state first) second := by
  induction first generalizing state with
  | nil => rfl
  | cons call rest ih => exact congrArg (List.cons _) (ih _)

theorem stateAfter_append (oracle : ChatOracle τ) (state : ChatState τ)
    (first second : List ChatCall) :
    oracle.stateAfter state (first ++ second) =
      oracle.stateAfter (oracle.stateAfter state first) second := by
  induction first generalizing state with
  | nil => rfl
  | cons call rest ih => exact ih _

/-- The parts of a history are histories. -/
theorem exists_of_turns_eq_append {calls : List ChatCall} {front back : List (ChatTurn τ)}
    (parts : oracle.turns state calls = front ++ back) :
    ∃ first second, front = oracle.turns state first ∧
      back = oracle.turns (oracle.stateAfter state first) second := by
  induction front generalizing state calls with
  | nil => exact ⟨[], calls, rfl, parts.symm⟩
  | cons turn front ih =>
      cases calls with
      | nil => cases parts
      | cons call rest =>
          rcases List.cons.inj parts with ⟨rfl, later⟩
          rcases ih later with ⟨first, second, rfl, rfl⟩
          exact ⟨call :: first, second, rfl, rfl⟩

theorem exists_of_infix {calls : List ChatCall} {stretch : List (ChatTurn τ)}
    (part : stretch <:+: oracle.turns state calls) :
    ∃ state' calls', stretch = oracle.turns state' calls' := by
  rcases part with ⟨front, back, parts⟩
  rw [List.append_assoc] at parts
  rcases exists_of_turns_eq_append parts.symm with ⟨first, second, _, rest⟩
  rcases exists_of_turns_eq_append rest.symm with ⟨calls', _, here, _⟩
  exact ⟨_, calls', here⟩

theorem exists_of_turns_eq_cons {calls : List ChatCall} {turn : ChatTurn τ}
    {rest : List (ChatTurn τ)} (parts : turn :: rest = oracle.turns state calls) :
    ∃ call later, turn = oracle.turn state call ∧ rest = oracle.turns turn.after later := by
  cases calls with
  | nil => cases parts
  | cons call later =>
      rcases List.cons.inj parts with ⟨rfl, others⟩
      exact ⟨call, later, rfl, others⟩

section Stretches

variable {calls : List ChatCall}

/-- Until a clearing a persona in the cache stays there. -/
theorem kept_by_turns (going : ∀ turn ∈ oracle.turns state calls, turn.call ≠ .clearing)
    (cached : state.personas.get? agent = some persona) :
    ∀ turn ∈ oracle.turns state calls,
      turn.after.personas.get? agent = some persona := by
  induction calls generalizing state with
  | nil => simp [turns]
  | cons call rest ih =>
      rcases List.forall_mem_cons.1 going with ⟨first, others⟩
      rw [call_turn] at first
      have after : (oracle.turn state call).after.personas.get? agent = some persona :=
        kept_by_turn first cached
      exact List.forall_mem_cons.2 ⟨after, ih others after⟩

/-- Until a clearing the requests for a traveller in the cache quote what is there. -/
theorem quotes_of_cached (going : ∀ turn ∈ oracle.turns state calls, turn.call ≠ .clearing)
    (cached : state.personas.get? agent = some persona) :
    ∀ turn ∈ oracle.turns state calls, ∀ context, turn.Serves agent context →
      ∀ exchange ∈ turn.exchanges, exchange.Quotes context persona := by
  induction calls generalizing state with
  | nil => simp [turns]
  | cons call rest ih =>
      rcases List.forall_mem_cons.1 going with ⟨first, others⟩
      rw [call_turn] at first
      have after : (oracle.turn state call).after.personas.get? agent = some persona :=
        kept_by_turn first cached
      refine List.forall_mem_cons.2 ⟨?_, ih others after⟩
      intro context serves
      rcases course_of_serves serves with ⟨proposal, course, _, rfl, plain⟩
      exact course.quotes_cached plain cached

/-- A turn that quotes a persona leaves it in the cache. -/
theorem cached_of_quoted {call : ChatCall}
    (serves : (oracle.turn state call).Serves agent context)
    {exchange : Exchange} (sent : exchange ∈ (oracle.turn state call).exchanges)
    (other : ¬ exchange.AsksPersona) :
    ∃ persona, exchange.Quotes context persona ∧
      (oracle.turn state call).after.personas.get? agent = some persona := by
  rcases course_of_serves serves with ⟨proposal, course, after, rfl, plain⟩
  rw [after]
  exact course.quotes plain sent other

/-- The first persona that is quoted is quoted from then on, and before that nothing but
personas is asked for. -/
theorem constant_of_going
    (going : ∀ turn ∈ oracle.turns state calls, turn.call ≠ .clearing) (agent : AgentId) :
    ∃ persona, ∀ turn ∈ oracle.turns state calls, ∀ context, turn.Serves agent context →
      ∀ exchange ∈ turn.exchanges, exchange.AsksPersona ∨ exchange.Quotes context persona := by
  induction calls generalizing state with
  | nil => exact ⟨"", by simp [turns]⟩
  | cons call rest ih =>
      rcases List.forall_mem_cons.1 going with ⟨_, others⟩
      cases after : (oracle.turn state call).after.personas.get? agent with
      | some persona =>
          refine ⟨persona, List.forall_mem_cons.2 ⟨?_, ?_⟩⟩
          · intro context serves exchange sent
            by_cases asks : exchange.AsksPersona
            · exact .inl asks
            · rcases cached_of_quoted serves sent asks with ⟨quoted, quotes, cached⟩
              cases cached.symm.trans after
              exact .inr quotes
          · intro turn among context serves exchange sent
            exact .inr (quotes_of_cached others after turn among context serves exchange sent)
      | none =>
          rcases ih others with ⟨persona, later⟩
          refine ⟨persona, List.forall_mem_cons.2 ⟨?_, later⟩⟩
          intro context serves exchange sent
          by_cases asks : exchange.AsksPersona
          · exact .inl asks
          · rcases cached_of_quoted serves sent asks with ⟨quoted, _, cached⟩
            cases cached.symm.trans after

/-- A traveller stays without a persona as long as none is needed. -/
theorem unknown_after (unknown : state.personas.get? agent = none)
    (few : ∀ turn ∈ oracle.turns state calls, ∀ context, turn.Serves agent context →
      context.validModes.modes.length ≤ 1) :
    (oracle.stateAfter state calls).personas.get? agent = none := by
  induction calls generalizing state with
  | nil => exact unknown
  | cons call rest ih =>
      rcases List.forall_mem_cons.1 few with ⟨first, others⟩
      refine ih ?_ others
      by_contra cached
      rcases serves_of_cached unknown cached with ⟨context, serves, several⟩
      have short := first context serves
      omega

/-- Until a clearing those are in the cache who were there before, and those whom a turn has
put there. -/
theorem cached_after_iff
    (going : ∀ turn ∈ oracle.turns state calls, turn.call ≠ .clearing) (agent : AgentId) :
    (oracle.stateAfter state calls).personas.get? agent ≠ none ↔
      state.personas.get? agent ≠ none ∨
        ∃ turn ∈ oracle.turns state calls, turn.Caches agent := by
  induction calls generalizing state with
  | nil => simp [stateAfter, turns]
  | cons call rest ih =>
      rcases List.forall_mem_cons.1 going with ⟨first, others⟩
      rw [call_turn] at first
      have here : (oracle.turn state call).after.personas.get? agent ≠ none ↔
          state.personas.get? agent ≠ none ∨ (oracle.turn state call).Caches agent := by
        rw [ChatTurn.Caches, before_turn]
        cases before : state.personas.get? agent with
        | none => simp
        | some persona =>
            have after : (oracle.turn state call).after.personas.get? agent = some persona :=
              kept_by_turn first before
            simp [after]
      rw [stateAfter, ih others, here, turns]
      simp only [List.mem_cons, exists_eq_or_imp, or_assoc]

end Stretches

/-! ## A whole history -/

/-- Right after a clearing, and before anything else, the cache is empty. -/
theorem get?_stateAfter_of_cleared {transport : τ} {calls : List ChatCall}
    (cleared : ∀ turn ∈ (oracle.turns (start transport) calls).getLast?, turn.call = .clearing)
    (agent : AgentId) :
    (oracle.stateAfter (start transport) calls).personas.get? agent = none := by
  rcases List.eq_nil_or_concat' calls with rfl | ⟨early, call, rfl⟩
  · exact PersonaCache.get?_empty agent
  · have last : oracle.turn (oracle.stateAfter (start transport) early) call ∈
        (oracle.turns (start transport) (early ++ [call])).getLast? := by
      rw [turns_append]
      simp [turns]
    have clearing := cleared _ last
    rw [call_turn] at clearing
    subst clearing
    rw [stateAfter_append]
    exact PersonaCache.get?_empty agent

theorem exists_of_mem_turns {calls : List ChatCall} {turn : ChatTurn τ}
    (among : turn ∈ oracle.turns state calls) :
    ∃ state' call, turn = oracle.turn state' call := by
  rcases List.append_of_mem among with ⟨front, back, parts⟩
  rcases exists_of_turns_eq_append parts with ⟨first, second, _, rest⟩
  rcases exists_of_turns_eq_cons rest with ⟨call, _, here, _⟩
  exact ⟨_, call, here⟩

theorem ownPersona?_eq_some {traveller : Agent} {text : String}
    (given : traveller.attributes.text? AttributeName.persona = some text)
    (something : Text.trim text ≠ "") : ownPersona? traveller = some (Text.trim text) := by
  simp [ownPersona?, given, Option.filter, something]

/-- After a request for a persona has failed, the next proposal that needs one asks again. -/
theorem asks_again {calls : List ChatCall} {first next : ChatTurn τ}
    {between : List (ChatTurn τ)} {later : TripContext}
    (history : first :: between ++ [next] = oracle.turns state calls)
    (serves : first.Serves agent context)
    (failed : ∃ exchange ∈ first.exchanges, exchange.AsksPersona ∧
      ∃ failure, exchange.reply = .error failure)
    (few : ∀ turn ∈ between, ∀ other, turn.Serves agent other →
      other.validModes.modes.length ≤ 1)
    (needs : next.Serves agent later) (several : 2 ≤ later.validModes.modes.length) :
    ∃ reply, next.exchanges.head? = some (personaExchange later reply) := by
  rcases exists_of_turns_eq_cons history with ⟨call, calls', rfl, rest⟩
  rcases course_of_serves serves with ⟨proposal, course, after, mine, _⟩
  rcases failed with ⟨exchange, sent, asks, failure, lost⟩
  rcases course.of_failed sent asks lost with ⟨_, same, _, source, missing⟩
  have unknown : (oracle.turn state call).after.personas.get? agent = none := by
    rw [after, same, ← mine]
    exact missing
  rcases exists_of_turns_eq_append rest.symm with ⟨waiting, final, rfl, last⟩
  rcases exists_of_turns_eq_cons last with ⟨call', _, rfl, _⟩
  rcases course_of_serves needs with ⟨_, course', _, same_agent, plain⟩
  have still := unknown_after unknown few
  rw [← same_agent] at still
  exact course'.asks_first source plain several still

/-- A clearing counts the travellers for whom a persona was cached since the last one. -/
theorem counts_cached {transport : τ} {calls : List ChatCall}
    {front stretch back : List (ChatTurn τ)} {last : ChatTurn τ}
    (history : oracle.turns (start transport) calls = front ++ stretch ++ last :: back)
    (opened : ∀ turn ∈ front.getLast?, turn.call = .clearing)
    (going : ∀ turn ∈ stretch, turn.call ≠ .clearing) (clearing : last.call = .clearing) :
    (∀ agent, last.after.personas.get? agent = none) ∧ last.exchanges = [] ∧
      ∃ agents : List AgentId, agents.Nodup ∧ last.answer = .cleared agents.length ∧
        ∀ agent, agent ∈ agents ↔ ∃ turn ∈ stretch, turn.Caches agent := by
  rw [List.append_assoc] at history
  rcases exists_of_turns_eq_append history with ⟨early, rest, rfl, others⟩
  rcases exists_of_turns_eq_append others.symm with ⟨middle, late, rfl, ending⟩
  rcases exists_of_turns_eq_cons ending with ⟨call, _, rfl, _⟩
  rw [call_turn] at clearing
  subst clearing
  refine ⟨PersonaCache.get?_empty, rfl, ?_⟩
  have listed := (oracle.stateAfter (oracle.stateAfter (start transport) early)
    middle).personas.exists_agents
  rcases listed with ⟨agents, distinct, length, members⟩
  refine ⟨agents, distinct, congrArg ChatAnswer.cleared length.symm, ?_⟩
  intro agent
  rw [members, cached_after_iff going, get?_stateAfter_of_cleared opened]
  simp

/-- Over any calls of a language-model oracle, and whatever the model replies, the personas
are kept and asked for as they should. -/
theorem turns_remember_personas (oracle : ChatOracle τ) (transport : τ)
    (calls : List ChatCall) : Remembers (oracle.turns (start transport) calls) where
  constant stretch part going agent := by
    rcases exists_of_infix part with ⟨state, calls', rfl⟩
    exact constant_of_going going agent
  quoted turn among agent context serves exchange sent persona quotes := by
    rcases exists_of_mem_turns among with ⟨state, call, rfl⟩
    rcases cached_of_quoted serves sent quotes.not_asksPersona with ⟨told, tells, cached⟩
    rw [quotes.unique tells, cached]
  kept first rest part going agent persona cached := by
    rcases exists_of_infix part with ⟨state, calls', history⟩
    rcases exists_of_turns_eq_cons history with ⟨call, _, rfl, _⟩
    rw [before_turn] at cached
    rw [history] at going ⊢
    exact kept_by_turns going cached
  settled first rest part going agent context serves quoted := by
    rcases exists_of_infix part with ⟨state, calls', history⟩
    rcases exists_of_turns_eq_cons history with ⟨call, later, rfl, rfl⟩
    rcases quoted with ⟨exchange, sent, other⟩
    rcases cached_of_quoted serves sent other with ⟨persona, _, cached⟩
    intro turn among context' needs exchange' sent'
    exact (quotes_of_cached going cached turn among context' needs exchange'
      sent').not_asksPersona
  failed turn among exchange sent asks failure lost := by
    rcases exists_of_mem_turns among with ⟨state, call, rfl⟩
    cases call with
    | clearing => cases sent
    | proposal random context =>
        rcases (oracle.course_turn state random context).of_failed sent asks lost with
          ⟨all, same, answer, _⟩
        exact ⟨all, same, congrArg ChatAnswer.proposed answer⟩
  again first between next part agent context later serves failed few needs several := by
    rcases exists_of_infix part with ⟨state, calls', history⟩
    exact asks_again history serves failed few needs several
  brought turn among random context given text own something := by
    rcases exists_of_mem_turns among with ⟨state, call, rfl⟩
    rw [call_turn] at given
    subst given
    have course := oracle.course_turn state random context
    exact course.of_brought (ownPersona?_eq_some own something)
  alone turn among random context given few := by
    rcases exists_of_mem_turns among with ⟨state, call, rfl⟩
    rw [call_turn] at given
    subst given
    exact (oracle.course_turn state random context).of_few few
  cleared _ _ _ _ history opened going clearing :=
    counts_cached history opened going clearing

/-- An errand by one of two modes, for a traveller without attributes. -/
def choiceOfTwo : TripContext where
  agent := Agent.bare ⟨7⟩
  trip := errand 2 .bike
  validModes := ⟨[.car, .walk], by decide⟩
  prior := []
  estimator := Estimator.constant fun _ => some (1, 600)

/-- The oracle that writes personas, on a transport with prepared replies. -/
def rehearsed : ChatOracle Conversation where
  transport := .ofReplies
  personaSource := .generate

/-- A model that does not answer is asked for the persona once more. -/
theorem rehearsed_asks_again :
    let draws := Random.forAgent 0 ⟨7⟩
    ∃ first next reply,
      rehearsed.turns (start ⟨[], []⟩)
        [.proposal draws choiceOfTwo, .proposal draws choiceOfTwo] = [first, next] ∧
      first.answer = .proposed (.error (.transport "script exhausted")) ∧
      next.exchanges.head? = some (personaExchange choiceOfTwo reply) := by
  intro draws
  have remembers := turns_remember_personas rehearsed ⟨[], []⟩
    [.proposal draws choiceOfTwo, .proposal draws choiceOfTwo]
  have plain : ownPersona? (Agent.bare ⟨7⟩) = none := by decide
  have unknown : PersonaCache.empty.get? (Agent.bare ⟨7⟩).id = none :=
    PersonaCache.get?_empty _
  have sent : (rehearsed.turn (start ⟨[], []⟩) (.proposal draws choiceOfTwo)).exchanges =
      [personaExchange choiceOfTwo (.error (.transport "script exhausted"))] := by
    simp [turn, exchanges, propose, rehearsed, choiceOfTwo, resolvePersona, plain, start,
      ChatState.unsent, generatedPersona, logged, ChatTransport.logged, unknown,
      ChatTransport.ofReplies, personaExchange]
  have asked : personaExchange choiceOfTwo (.error (.transport "script exhausted")) ∈
      (rehearsed.turn (start ⟨[], []⟩) (.proposal draws choiceOfTwo)).exchanges := by
    simp [sent]
  have failed := remembers.failed _ (List.mem_cons_self ..) _ asked rfl _ rfl
  rcases remembers.again _ [] _ List.infix_rfl ⟨7⟩ choiceOfTwo choiceOfTwo
    ⟨⟨draws, rfl⟩, rfl, plain⟩ ⟨_, asked, rfl, _, rfl⟩ (by simp) ⟨⟨draws, rfl⟩, rfl, plain⟩
    (by decide) with ⟨reply, again⟩
  exact ⟨_, _, reply, rfl, failed.2.2, again⟩

end ChatOracle

end ModeChoice
