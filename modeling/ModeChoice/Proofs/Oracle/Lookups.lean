import ModeChoice.Proofs.Oracle.Exchanges
import ModeChoice.Proofs.Text.Ends
import ModeChoice.Rehearsal

/-!
# Looking personas up

Personas are looked up one after the other, for any travellers and with any replies of the
language model, and each lookup knows those that the ones before it have left.  The one
thing that makes a persona blank is a hollow reply: its first line with ink has nothing in
it but quotation marks and white space, the marks outside.  The line is looked for before
the marks are taken off, so it counts as a persona, and what is left of it stays with the
traveller.  A reply without ink gives way to a stock persona.
-/

namespace ModeChoice

open Text

theorem Random.mem_of_choose {α : Type} {items : List α} {random : Random} {item : α}
    (drawn : (random.choose items).1 = some item) : item ∈ items := by
  unfold choose at drawn
  split at drawn
  · cases drawn
  · exact List.mem_of_getElem? drawn

namespace ChatOracle

/-! ## What a reply says -/

/-- Nothing but white space. -/
def Blanks (characters : List Char) : Prop :=
  ∀ c ∈ characters, isBlank c = true

/-- Nothing but quotation marks. -/
def Marks (characters : List Char) : Prop :=
  ∀ c ∈ characters, (c == '"') = true

/-- Quotation marks at most, with white space around and between them. -/
def MarksAlone (line : String) : Prop :=
  ∃ before opening gap closing after,
    line.toList = before ++ opening ++ gap ++ closing ++ after ∧
      Blanks before ∧ Marks opening ∧ Blanks gap ∧ Marks closing ∧ Blanks after

/-- The first line with ink in it has only quotation marks to show. -/
def Hollow (reply : String) : Prop :=
  ∃ line, (lines reply).find? hasInk = some line ∧ MarksAlone line

/-- What a line comes to as a persona. -/
def unquoted (line : String) : String :=
  trimMarks '"' (trim line)

/-- A reply that is used tells the persona in its first line with ink, and one without ink
leaves it to the stock. -/
inductive Tells (reply : String) : String → Prop where
  | written {line : String} (first : (lines reply).find? hasInk = some line) :
      Tells reply (unquoted line)
  | blank {persona : String} (blank : hasInk reply = false) (stock : persona ∈ stockPersonas) :
      Tells reply persona

variable {reply line persona : String}

theorem personaLine?_eq (reply : String) :
    personaLine? reply = ((lines reply).find? hasInk).map unquoted := by
  have used : (fun line => line != "") ∘ trim = hasInk := by
    funext line
    rw [Function.comp_apply, Bool.eq_iff_iff, bne_iff_ne, ne_eq, trim_eq_empty_iff,
      Bool.not_eq_false]
  rw [personaLine?, List.find?_map, used, Option.map_map]
  rfl

theorem find?_hasInk_eq_none_iff :
    (lines reply).find? hasInk = none ↔ hasInk reply = false := by
  rw [List.find?_eq_none, ← forall_hasInk_lines_iff]
  simp

section Marking

variable {characters before back : List Char}

theorem Blanks.append (blank : Blanks before) (blank' : Blanks back) :
    Blanks (before ++ back) := by
  intro c among
  exact (List.mem_append.1 among).elim (blank c) (blank' c)

theorem Marks.not_blank (marks : Marks characters) : ∀ c ∈ characters, isBlank c = false := by
  intro c among
  rw [eq_of_beq (marks c among)]
  decide

theorem Blanks.not_mark (blank : Blanks characters) :
    ∀ c ∈ characters, (c == '"') = false := by
  intro c among
  rw [beq_eq_false_iff_ne]
  rintro rfl
  exact absurd (blank _ among) (by decide)

theorem MarksAlone.exists_trimmed (alone : MarksAlone line) :
    ∃ opening gap closing, stripped isBlank line.toList = opening ++ gap ++ closing ∧
      Marks opening ∧ Blanks gap ∧ Marks closing := by
  rcases alone with ⟨before, opening, gap, closing, after, parts, blank, opens, inner, closes,
    blank'⟩
  have none : Marks [] := by simp [Marks]
  have nothing : Blanks [] := by simp [Blanks]
  cases opening with
  | nil =>
      refine ⟨[], [], closing, ?_, none, nothing, closes⟩
      rw [parts, List.append_nil]
      exact stripped_append_of_outside (blank.append inner) blank' closes.not_blank
  | cons first opening =>
      have begins : isBlank first = false := opens.not_blank first (by simp)
      rcases List.eq_nil_or_concat' closing with rfl | ⟨closing, last, rfl⟩
      · refine ⟨first :: opening, [], [], ?_, opens, nothing, none⟩
        rw [parts, List.append_nil, List.append_assoc, List.append_nil, List.append_nil]
        exact stripped_append_of_outside blank (inner.append blank') opens.not_blank
      · have ends : isBlank last = false := closes.not_blank last (by simp)
        refine ⟨first :: opening, gap, closing ++ [last], ?_, opens, inner, closes⟩
        rw [parts, List.append_assoc before, List.append_assoc before]
        refine stripped_append blank blank' ?_ ?_
        · simpa using begins
        · rw [← List.append_assoc, List.getLast?_concat]
          simpa using ends

/-- A line is left blank exactly if it is marks alone. -/
theorem hasInk_unquoted_iff : hasInk (unquoted line) = false ↔ MarksAlone line := by
  rw [unquoted, hasInk_eq_false_iff, toList_trimMarks, toList_trim]
  constructor
  · intro inner
    rcases exists_stripped isBlank line.toList with ⟨before, after, outer, blank, blank'⟩
    rcases exists_stripped (· == '"') (stripped isBlank line.toList) with
      ⟨opening, closing, middle, opens, closes⟩
    refine ⟨before, opening, _, closing, after, ?_, blank, opens, inner, closes, blank'⟩
    calc line.toList
        = before ++ stripped isBlank line.toList ++ after := outer
      _ = before ++ (opening ++ _ ++ closing) ++ after :=
          congrArg (fun characters => before ++ characters ++ after) middle
      _ = before ++ opening ++ _ ++ closing ++ after := by simp only [List.append_assoc]
  · intro alone
    rcases alone.exists_trimmed with ⟨opening, gap, closing, trimmed, opens, blank, closes⟩
    rw [trimmed, stripped_append_of_outside opens closes blank.not_mark]
    exact blank

end Marking

/-! ## Personas with ink -/

theorem hasInk_of_stock (stock : persona ∈ stockPersonas) : hasInk persona = true := by
  simp only [stockPersonas, List.mem_cons, List.not_mem_nil, or_false] at stock
  rcases stock with rfl | rfl | rfl | rfl | rfl | rfl | rfl | rfl | rfl | rfl | rfl | rfl
  -- Each of them begins with a letter; its other characters need not be looked at.
  all_goals exact hasInk_of_begins (by decide)

theorem drawPersona_mem (random : Random) : (drawPersona random).1 ∈ stockPersonas := by
  simp only [drawPersona]
  cases drawn : (random.choose stockPersonas).1 with
  | none => decide
  | some persona => exact Random.mem_of_choose drawn

theorem hasInk_of_own {traveller : Agent} (own : ownPersona? traveller = some persona) :
    hasInk persona = true := by
  rcases Option.filter_eq_some_iff.1 own with ⟨given, something⟩
  rcases Option.map_eq_some_iff.1 given with ⟨text, _, rfl⟩
  rw [hasInk_trim, ← Bool.not_eq_false, ← trim_eq_empty_iff]
  simpa using something

theorem Tells.hasInk_iff (tells : Tells reply persona) :
    hasInk persona = false ↔ Hollow reply := by
  cases tells with
  | written first =>
      rw [hasInk_unquoted_iff, Hollow, first]
      simp
  | blank blank stock =>
      rw [Hollow, find?_hasInk_eq_none_iff.2 blank, hasInk_of_stock stock]
      simp

theorem Tells.stock_of_blank (tells : Tells reply persona) (blank : hasInk reply = false) :
    persona ∈ stockPersonas := by
  cases tells with
  | written first => cases (find?_hasInk_eq_none_iff.2 blank).symm.trans first
  | blank _ stock => exact stock

/-! ## What is remembered -/

variable {τ : Type}

theorem answer_remembered (state : ChatState τ) (random : Random) {agent : AgentId}
    (unknown : state.personas.get? agent = none) (persona : String) :
    (remembered state random agent persona).answer = .ok persona := by
  simp [remembered, PersonaCache.get?_remember, unknown]

/-- A reply of the model leads to some persona, be it the one in the reply or one from stock. -/
theorem exists_told (oracle : ChatOracle τ) (state : ChatState τ) (random : Random)
    (agent : AgentId) {profile : Profile} {text : String}
    (answered : (oracle.transport.chat state.transport Prompt.personaSystem
      (Prompt.persona profile)).1 = .ok text) :
    ∃ persona drawn, Tells text persona ∧
      oracle.generatedPersona state random agent profile =
        remembered
          { state with transport := (oracle.transport.chat state.transport
              Prompt.personaSystem (Prompt.persona profile)).2 }
          drawn agent persona := by
  cases first : (lines text).find? hasInk with
  | some line =>
      refine ⟨unquoted line, random, .written first, ?_⟩
      simp only [generatedPersona, answered, personaLine?_eq, first, Option.map_some]
  | none =>
      have blank : hasInk text = false := find?_hasInk_eq_none_iff.1 first
      refine ⟨(drawPersona random).1, (drawPersona random).2,
        .blank blank (drawPersona_mem random), ?_⟩
      simp only [generatedPersona, answered, personaLine?_eq, first, Option.map_none,
        drawnPersona]

end ChatOracle

/-! ## One lookup -/

open ChatOracle

/-- What the persona of a traveller is looked up with, but for the personas that are known. -/
structure PersonaQuery (τ : Type) where
  oracle : ChatOracle τ
  transport : τ
  random : Random
  agent : Agent
  profile : Profile

namespace PersonaQuery

variable {τ : Type}

/-- What the lookup comes to. -/
def resolve (query : PersonaQuery τ) (personas : PersonaCache) : PersonaResult τ :=
  query.oracle.resolvePersona ⟨personas, query.transport⟩ query.random query.agent query.profile

/-- The same over a transport that remembers. -/
def resolveLogged (query : PersonaQuery τ) (personas : PersonaCache) :
    PersonaResult (τ × List Exchange) :=
  query.oracle.logged.resolvePersona (ChatState.unsent ⟨personas, query.transport⟩)
    query.random query.agent query.profile

/-- What goes over the transport meanwhile. -/
def exchanges (query : PersonaQuery τ) (personas : PersonaCache) : List Exchange :=
  (query.resolveLogged personas).state.transport.2

/-- The request for the persona. -/
def request (query : PersonaQuery τ) (reply : Except OracleError String) : Exchange :=
  ⟨Prompt.personaSystem, Prompt.persona query.profile, reply⟩

/-- The ways that a lookup can go: what it answers, which personas are known after it, and
what is sent. -/
inductive Course (query : PersonaQuery τ) (personas : PersonaCache) :
    Except OracleError String → PersonaCache → List Exchange → Prop where
  /-- The traveller has brought a persona along. -/
  | brought {persona : String} (own : ownPersona? query.agent = some persona) :
      Course query personas (.ok persona) personas []
  | known {persona : String} (plain : ownPersona? query.agent = none)
      (cached : personas.get? query.agent.id = some persona) :
      Course query personas (.ok persona) personas []
  /-- A stock persona is drawn, and nobody is asked. -/
  | drawn {persona : String} (plain : ownPersona? query.agent = none)
      (unknown : personas.get? query.agent.id = none)
      (source : query.oracle.personaSource = .sample) (stock : persona ∈ stockPersonas) :
      Course query personas (.ok persona) (personas.remember query.agent.id persona) []
  /-- The model is asked and replies. -/
  | replied {persona reply : String} (plain : ownPersona? query.agent = none)
      (unknown : personas.get? query.agent.id = none)
      (source : query.oracle.personaSource = .generate) (tells : Tells reply persona) :
      Course query personas (.ok persona) (personas.remember query.agent.id persona)
        [query.request (.ok reply)]
  /-- The model is asked and fails. -/
  | refused {failure : OracleError} (plain : ownPersona? query.agent = none)
      (unknown : personas.get? query.agent.id = none)
      (source : query.oracle.personaSource = .generate) :
      Course query personas (.error failure) personas [query.request (.error failure)]

theorem resolve_eq_forget (query : PersonaQuery τ) (personas : PersonaCache) :
    query.resolve personas = (query.resolveLogged personas).forget :=
  query.oracle.resolvePersona_forget (ChatState.unsent ⟨personas, query.transport⟩)
    query.random query.agent query.profile

section Unknown

variable {query : PersonaQuery τ} {personas : PersonaCache}

theorem resolveLogged_of_unknown (plain : ownPersona? query.agent = none)
    (unknown : personas.get? query.agent.id = none) :
    query.resolveLogged personas =
      match query.oracle.personaSource with
      | .generate => query.oracle.logged.generatedPersona
          (ChatState.unsent ⟨personas, query.transport⟩) query.random query.agent.id query.profile
      | .sample => drawnPersona (ChatState.unsent ⟨personas, query.transport⟩) query.random
          query.agent.id := by
  have same : (ChatState.unsent ⟨personas, query.transport⟩).personas = personas := rfl
  simp only [resolveLogged, resolvePersona, plain, same, unknown]
  rfl

theorem course_of_sample (plain : ownPersona? query.agent = none)
    (unknown : personas.get? query.agent.id = none)
    (source : query.oracle.personaSource = .sample) :
    query.Course personas (query.resolveLogged personas).answer
      (query.resolveLogged personas).state.personas (query.exchanges personas) := by
  rw [exchanges, resolveLogged_of_unknown plain unknown, source]
  simp only [drawnPersona]
  rw [answer_remembered _ _ unknown]
  exact .drawn plain unknown source (drawPersona_mem query.random)

theorem course_of_generate (plain : ownPersona? query.agent = none)
    (unknown : personas.get? query.agent.id = none)
    (source : query.oracle.personaSource = .generate) :
    query.Course personas (query.resolveLogged personas).answer
      (query.resolveLogged personas).state.personas (query.exchanges personas) := by
  rw [exchanges, resolveLogged_of_unknown plain unknown, source]
  simp only
  cases answered : (query.oracle.transport.chat query.transport Prompt.personaSystem
      (Prompt.persona query.profile)).1 with
  | error failure =>
      simp only [generatedPersona, transport_logged, ChatState.unsent,
        ChatTransport.chat_logged, answered]
      exact .refused plain unknown source
  | ok text =>
      rcases query.oracle.logged.exists_told (ChatState.unsent ⟨personas, query.transport⟩)
        query.random query.agent.id answered with ⟨persona, drawn, tells, found⟩
      rw [found, answer_remembered _ _ unknown]
      simp only [remembered, transport_logged, ChatState.unsent, ChatTransport.chat_logged,
        answered]
      exact .replied plain unknown source tells

end Unknown

theorem course_resolveLogged (query : PersonaQuery τ) (personas : PersonaCache) :
    query.Course personas (query.resolveLogged personas).answer
      (query.resolveLogged personas).state.personas (query.exchanges personas) := by
  cases own : ownPersona? query.agent with
  | some persona =>
      simp only [exchanges, resolveLogged, resolvePersona, own]
      exact .brought own
  | none =>
      cases cached : personas.get? query.agent.id with
      | some persona =>
          have same : (ChatState.unsent ⟨personas, query.transport⟩).personas = personas := rfl
          simp only [exchanges, resolveLogged, resolvePersona, own, same, cached]
          exact .known own cached
      | none =>
          cases source : query.oracle.personaSource with
          | sample => exact course_of_sample own cached source
          | generate => exact course_of_generate own cached source

theorem course_resolve (query : PersonaQuery τ) (personas : PersonaCache) :
    query.Course personas (query.resolve personas).answer
      (query.resolve personas).state.personas (query.exchanges personas) := by
  rw [resolve_eq_forget]
  exact query.course_resolveLogged personas

/-- The texts among the replies. -/
def textsOf (exchanges : List Exchange) : List String :=
  exchanges.filterMap fun exchange => exchange.reply.toOption

@[simp]
theorem textsOf_nil : textsOf [] = [] := rfl

@[simp]
theorem textsOf_request_ok (query : PersonaQuery τ) (text : String) :
    textsOf [query.request (.ok text)] = [text] := rfl

@[simp]
theorem textsOf_request_error (query : PersonaQuery τ) (failure : OracleError) :
    textsOf [query.request (.error failure)] = [] := rfl

variable {query : PersonaQuery τ} {personas after : PersonaCache} {sent : List Exchange}
  {replies : List String} {answer : Except OracleError String}
  {received : List (AgentId × String)} {agent : AgentId} {persona reply : String}

theorem Course.answer_of_own (course : query.Course personas answer after sent)
    (own : ownPersona? query.agent = some persona) : answer = .ok persona := by
  cases course with
  | brought brought => cases brought.symm.trans own; rfl
  | known plain _ => cases plain.symm.trans own
  | drawn plain _ _ _ => cases plain.symm.trans own
  | replied plain _ _ _ => cases plain.symm.trans own
  | refused plain _ _ => cases plain.symm.trans own

/-- A persona that the traveller has not brought along is known afterwards. -/
theorem Course.known_of_answer (course : query.Course personas (.ok persona) after sent)
    (plain : ownPersona? query.agent = none) :
    after.get? query.agent.id = some persona := by
  cases course with
  | brought own => cases plain.symm.trans own
  | known _ cached => exact cached
  | drawn _ unknown _ stock => simp [PersonaCache.get?_remember, unknown]
  | replied _ unknown _ tells => simp [PersonaCache.get?_remember, unknown]

theorem Course.stock_of_blank_reply (course : query.Course personas answer after sent)
    (received : reply ∈ textsOf sent) (blank : hasInk reply = false) :
    ∃ persona ∈ stockPersonas, answer = .ok persona ∧
      after.get? query.agent.id = some persona := by
  cases course with
  | replied plain unknown source tells =>
      cases List.mem_singleton.1 received
      exact ⟨_, tells.stock_of_blank blank, rfl,
        (Course.replied plain unknown source tells).known_of_answer plain⟩
  | brought own => cases received
  | known plain cached => cases received
  | drawn plain unknown source stock => cases received
  | refused plain unknown source => cases received

/-! ## Lookups one after the other -/

/-- The personas that are known after lookups. -/
def knownAfter : PersonaCache → List (PersonaQuery τ) → PersonaCache
  | personas, [] => personas
  | personas, query :: rest => knownAfter (query.resolve personas).state.personas rest

/-- What the model has replied over lookups, and about whom. -/
def receipts : PersonaCache → List (PersonaQuery τ) → List (AgentId × String)
  | _, [] => []
  | personas, query :: rest =>
      (textsOf (query.exchanges personas)).map (query.agent.id, ·) ++
        receipts (query.resolve personas).state.personas rest

/-- Every reply tells the persona that is known of its traveller, and where there was none
the persona is from stock. -/
structure Accounted (personas : PersonaCache) (received : List (AgentId × String)) : Prop where
  told : ∀ agent reply, (agent, reply) ∈ received →
    ∃ persona, personas.get? agent = some persona ∧ Tells reply persona
  known : ∀ agent persona, personas.get? agent = some persona →
    persona ∈ stockPersonas ∨ ∃ reply, (agent, reply) ∈ received

theorem Accounted.hasInk_iff (accounted : Accounted personas received)
    (cached : personas.get? agent = some persona) :
    hasInk persona = false ↔ ∃ reply, (agent, reply) ∈ received ∧ Hollow reply := by
  have tells {reply : String} (about : (agent, reply) ∈ received) : Tells reply persona := by
    rcases accounted.told agent reply about with ⟨other, same, tells⟩
    cases cached.symm.trans same
    exact tells
  constructor
  · intro blank
    rcases accounted.known agent persona cached with stock | ⟨reply, about⟩
    · cases blank.symm.trans (hasInk_of_stock stock)
    · exact ⟨reply, about, (tells about).hasInk_iff.1 blank⟩
  · rintro ⟨reply, about, hollow⟩
    exact (tells about).hasInk_iff.2 hollow

theorem Accounted.empty : Accounted .empty [] where
  told agent reply about := by cases about
  known agent persona cached := by simp at cached

/-- A persona that was not known is remembered together with what it comes from. -/
theorem Accounted.remember (accounted : Accounted personas received)
    (unknown : personas.get? agent = none) (tells : ∀ reply ∈ replies, Tells reply persona)
    (source : persona ∈ stockPersonas ∨ replies ≠ []) :
    Accounted (personas.remember agent persona) (received ++ replies.map (agent, ·)) where
  told other reply about := by
    rcases List.mem_append.1 about with early | here
    · rcases accounted.told other reply early with ⟨persona', cached, told⟩
      refine ⟨persona', ?_, told⟩
      simp [PersonaCache.get?_remember, cached]
    · rcases List.mem_map.1 here with ⟨reply, among, same⟩
      cases same
      refine ⟨persona, ?_, tells reply among⟩
      simp [PersonaCache.get?_remember, unknown]
  known other persona' cached := by
    rw [PersonaCache.get?_remember] at cached
    split at cached
    · rename_i here
      rcases here with ⟨rfl, _⟩
      cases cached
      rcases source with stock | some
      · exact .inl stock
      · rcases List.exists_mem_of_ne_nil replies some with ⟨reply, among⟩
        exact .inr ⟨reply, List.mem_append_right _ (List.mem_map_of_mem among)⟩
    · rcases accounted.known other persona' cached with stock | ⟨reply, about⟩
      · exact .inl stock
      · exact .inr ⟨reply, List.mem_append_left _ about⟩

theorem Course.accounted (course : query.Course personas answer after sent)
    (accounted : Accounted personas received) :
    Accounted after (received ++ (textsOf sent).map (query.agent.id, ·)) := by
  cases course with
  | brought own => simpa using accounted
  | known plain cached => simpa using accounted
  | drawn plain unknown source stock =>
      exact accounted.remember unknown (by simp) (.inl stock)
  | replied plain unknown source tells =>
      exact accounted.remember unknown (by simpa using tells) (.inr (by simp))
  | refused plain unknown source => simpa using accounted

theorem accounted_after (queries : List (PersonaQuery τ))
    (accounted : Accounted personas received) :
    Accounted (knownAfter personas queries) (received ++ receipts personas queries) := by
  induction queries generalizing personas received with
  | nil => simpa [knownAfter, receipts] using accounted
  | cons query rest ih =>
      rw [knownAfter, receipts, ← List.append_assoc]
      exact ih ((query.course_resolve personas).accounted accounted)

theorem knownAfter_concat (personas : PersonaCache) (earlier : List (PersonaQuery τ))
    (query : PersonaQuery τ) :
    knownAfter personas (earlier ++ [query]) =
      (query.resolve (knownAfter personas earlier)).state.personas := by
  induction earlier generalizing personas with
  | nil => rfl
  | cons first rest ih => exact ih _

/-- What holds of a lookup after others. -/
structure BlankOnlyIfHollow (earlier : List (PersonaQuery τ)) (query : PersonaQuery τ) :
    Prop where
  /-- The answer is blank exactly if it had to be found, and a reply about the traveller,
  now or earlier, was hollow. -/
  answered : ∀ persona, (query.resolve (knownAfter .empty earlier)).answer = .ok persona →
    (hasInk persona = false ↔ ownPersona? query.agent = none ∧
      ∃ reply, (query.agent.id, reply) ∈ receipts .empty (earlier ++ [query]) ∧ Hollow reply)
  /-- A persona that is known afterwards is blank exactly if a reply about its traveller was
  hollow. -/
  known : ∀ agent persona,
    (knownAfter .empty (earlier ++ [query])).get? agent = some persona →
      (hasInk persona = false ↔
        ∃ reply, (agent, reply) ∈ receipts .empty (earlier ++ [query]) ∧ Hollow reply)
  /-- What is answered is known afterwards, unless the traveller has brought it along. -/
  remembered : ∀ persona, (query.resolve (knownAfter .empty earlier)).answer = .ok persona →
    ownPersona? query.agent = none →
      (knownAfter .empty (earlier ++ [query])).get? query.agent.id = some persona
  /-- A reply without ink gives way to a stock persona. -/
  replaced : ∀ reply ∈ textsOf (query.exchanges (knownAfter .empty earlier)),
    hasInk reply = false →
      ∃ persona ∈ stockPersonas, hasInk persona = true ∧
        (query.resolve (knownAfter .empty earlier)).answer = .ok persona ∧
        (knownAfter .empty (earlier ++ [query])).get? query.agent.id = some persona

/-- Whatever was looked up before, and whatever the model replies, a persona is blank only
for a hollow reply. -/
theorem resolve_blank_iff_hollow (earlier : List (PersonaQuery τ)) (query : PersonaQuery τ) :
    BlankOnlyIfHollow earlier query := by
  have course := query.course_resolve (knownAfter .empty earlier)
  have accounted : Accounted (knownAfter .empty (earlier ++ [query]))
      (receipts .empty (earlier ++ [query])) :=
    accounted_after (earlier ++ [query]) .empty
  refine ⟨?_, fun agent persona cached => accounted.hasInk_iff cached, ?_, ?_⟩
  · intro persona answer
    cases own : ownPersona? query.agent with
    | some brought =>
        cases answer.symm.trans (course.answer_of_own own)
        simp [hasInk_of_own own]
    | none =>
        rw [answer] at course
        have cached := course.known_of_answer own
        rw [← knownAfter_concat] at cached
        simpa using accounted.hasInk_iff cached
  · intro persona answer plain
    rw [answer] at course
    rw [knownAfter_concat]
    exact course.known_of_answer plain
  · intro reply received blank
    rcases course.stock_of_blank_reply received blank with ⟨persona, stock, answer, cached⟩
    rw [knownAfter_concat]
    exact ⟨persona, stock, hasInk_of_stock stock, answer, cached⟩

/-- A lookup for which the model writes a single quotation mark. -/
def loneMark : PersonaQuery Conversation where
  oracle := ⟨.ofReplies, .generate⟩
  transport := ⟨[.ok "\""], []⟩
  random := Random.forAgent 0 ⟨7⟩
  agent := Agent.bare ⟨7⟩
  profile := Profile.ofAgent (Agent.bare ⟨7⟩)

/-- A lone quotation mark is taken for a persona, and nothing is left of it. -/
theorem loneMark_resolves_blank :
    (loneMark.resolve .empty).answer = .ok "" ∧
      (loneMark.resolve .empty).state.personas.get? ⟨7⟩ = some "" ∧ hasInk "" = false := by
  have plain : ownPersona? (Agent.bare ⟨7⟩) = none := by decide
  have unknown : PersonaCache.empty.get? (Agent.bare ⟨7⟩).id = none :=
    PersonaCache.get?_empty _
  have line : personaLine? "\"" = some "" := by decide
  have found : loneMark.resolve .empty =
      remembered ⟨.empty, [], [(Prompt.personaSystem, Prompt.persona loneMark.profile)]⟩
        loneMark.random ⟨7⟩ "" := by
    simp [resolve, resolvePersona, loneMark, plain, unknown, generatedPersona,
      ChatTransport.ofReplies, line]
    rfl
  rw [found]
  refine ⟨answer_remembered _ _ (PersonaCache.get?_empty _) "", ?_, by decide⟩
  simp [remembered, PersonaCache.get?_remember]

end PersonaQuery

end ModeChoice
