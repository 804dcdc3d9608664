import Mathlib.Data.Finset.Card
import Mathlib.Data.List.Nodup
import ModeChoice.Agent.Population

/-!
# Populations as registers

A population keeps its travellers in a row and a map from identities to places in it.  Each
traveller stands at the place of its identity and at no other, whatever has been added, so
the look-up always arrives.  From this one fact it follows that identities stand in the order
in which they were first added, and that of several travellers with one identity the last
one counts.
-/

namespace ModeChoice.Population

variable (population : Population)

/-- The identities in order of first addition. -/
def ids : List AgentId :=
  population.toList.map Agent.id

/-! ## Places -/

variable {population} {agent : Agent} {id : AgentId} {place : Nat}

theorem ids_getElem?_eq_some_iff :
    population.ids[place]? = some id ↔ population.places[id]? = some place := by
  rw [population.places_iff, ids, toList, List.getElem?_map, Array.getElem?_toList]

/-- The place of an identity is in the row, and a traveller with this identity stands there. -/
theorem place_eq_some_iff :
    population.places[id]? = some place ↔
      ∃ agent, population.toList[place]? = some agent ∧ agent.id = id := by
  rw [← ids_getElem?_eq_some_iff, ids, List.getElem?_map, Option.map_eq_some_iff]

theorem mem_ids_iff : id ∈ population.ids ↔ ∃ place, population.places[id]? = some place := by
  simp only [List.mem_iff_getElem?, ids_getElem?_eq_some_iff]

theorem place_eq_none_iff : population.places[id]? = none ↔ id ∉ population.ids := by
  rw [mem_ids_iff, Option.eq_none_iff_forall_ne_some, not_exists]

/-- Travellers at two places have two identities. -/
theorem nodup_ids (population : Population) : population.ids.Nodup := by
  rw [List.nodup_iff_getElem?_ne_getElem?]
  intro earlier later before within same
  have there := List.getElem?_eq_getElem within
  have first := ids_getElem?_eq_some_iff.1 (same.trans there)
  have second := ids_getElem?_eq_some_iff.1 there
  have places : earlier = later := Option.some.inj (first.symm.trans second)
  omega

theorem mem_toList_iff : agent ∈ population.toList ↔ agent ∈ population.agents :=
  Array.mem_toList_iff

/-- A look-up finds the traveller with that identity. -/
theorem get?_eq_some_iff (population : Population) {id : AgentId} {agent : Agent} :
    population.get? id = some agent ↔ agent ∈ population.agents ∧ agent.id = id := by
  rw [get?, Option.bind_eq_some_iff]
  constructor
  · rintro ⟨place, found, there⟩
    have named := (population.places_iff id place).1 found
    rw [there] at named
    exact ⟨Array.mem_of_getElem? there, Option.some.inj named⟩
  · rintro ⟨among, rfl⟩
    rcases Array.getElem?_of_mem among with ⟨place, there⟩
    refine ⟨place, (population.places_iff _ _).2 ?_, there⟩
    rw [there, Option.map_some]

/-! ## One more traveller -/

theorem insert_of_present (found : population.places[agent.id]? = some place) :
    (population.insert agent).agents = population.agents.setIfInBounds place agent ∧
      (population.insert agent).places = population.places := by
  unfold insert
  split
  · rename_i place' found'
    cases found.symm.trans found'
    exact ⟨rfl, rfl⟩
  · rename_i missing
    cases found.symm.trans missing

theorem agents_insert_of_absent (missing : population.places[agent.id]? = none) :
    (population.insert agent).agents = population.agents.push agent := by
  unfold insert
  split
  · rename_i place found
    cases missing.symm.trans found
  · rfl

/-- The traveller with a known identity takes the place of the one who had it, and everybody
else stays. -/
theorem toList_insert_of_mem (known : agent.id ∈ population.ids) :
    (population.insert agent).toList =
      population.toList.map fun other => if other.id = agent.id then agent else other := by
  rcases mem_ids_iff.1 known with ⟨place, found⟩
  rcases place_eq_some_iff.1 found with ⟨former, there, named⟩
  have within : place < population.toList.length := (List.getElem?_eq_some_iff.1 there).1
  have replaced : (population.insert agent).toList = population.toList.set place agent := by
    rw [toList, (insert_of_present found).1, Array.toList_setIfInBounds]
    rfl
  rw [replaced]
  apply List.ext_getElem?
  intro position
  by_cases same : place = position
  · subst same
    rw [List.getElem?_set_self within, List.getElem?_map, there, Option.map_some, if_pos named]
  · rw [List.getElem?_set_ne same, List.getElem?_map]
    cases here : population.toList[position]? with
    | none => rfl
    | some other =>
        -- Only one place has the identity.
        have different : other.id ≠ agent.id := by
          intro shared
          have found' := place_eq_some_iff.2 ⟨other, here, shared⟩
          exact same (Option.some.inj (found.symm.trans found'))
        rw [Option.map_some, if_neg different]

theorem toList_insert_of_not_mem (unknown : agent.id ∉ population.ids) :
    (population.insert agent).toList = population.toList ++ [agent] := by
  rw [toList, agents_insert_of_absent (place_eq_none_iff.2 unknown), Array.toList_push]
  rfl

theorem ids_insert (population : Population) (agent : Agent) :
    (population.insert agent).ids =
      if agent.id ∈ population.ids then population.ids else population.ids ++ [agent.id] := by
  split
  · rename_i known
    rw [ids, toList_insert_of_mem known, List.map_map, ids]
    apply List.map_congr_left
    intro other among
    simp only [Function.comp_apply]
    split
    · rename_i same
      exact same.symm
    · rfl
  · rename_i unknown
    rw [ids, toList_insert_of_not_mem unknown, List.map_append]
    rfl

theorem mem_toList_insert_iff {other : Agent} :
    other ∈ (population.insert agent).toList ↔
      other = agent ∨ other ∈ population.toList ∧ other.id ≠ agent.id := by
  by_cases known : agent.id ∈ population.ids
  · rcases List.mem_map.1 known with ⟨former, there, named⟩
    rw [toList_insert_of_mem known, List.mem_map]
    constructor
    · rintro ⟨previous, among, rfl⟩
      split
      · exact .inl rfl
      · rename_i different
        exact .inr ⟨among, different⟩
    · rintro (rfl | ⟨among, different⟩)
      · exact ⟨former, there, if_pos named⟩
      · exact ⟨other, among, if_neg different⟩
  · rw [toList_insert_of_not_mem known, List.mem_append, List.mem_singleton, or_comm]
    apply or_congr_right
    constructor
    · intro among
      exact ⟨among, fun shared => known (List.mem_map.2 ⟨other, among, shared⟩)⟩
    · exact fun both => both.1

/-- The newest traveller with an identity is the one that is found by it. -/
theorem get?_insert (population : Population) (agent : Agent) (id : AgentId) :
    (population.insert agent).get? id =
      if id = agent.id then some agent else population.get? id := by
  apply Option.ext
  intro found
  rw [get?_eq_some_iff, ← mem_toList_iff, mem_toList_insert_iff]
  split
  · rename_i same
    subst same
    constructor
    · rintro ⟨rfl | ⟨_, different⟩, named⟩
      · rfl
      · exact absurd named different
    · intro newest
      cases newest
      exact ⟨.inl rfl, rfl⟩
  · rename_i different
    rw [get?_eq_some_iff, ← mem_toList_iff]
    constructor
    · rintro ⟨rfl | ⟨among, _⟩, named⟩
      · exact absurd named.symm different
      · exact ⟨among, named⟩
    · rintro ⟨among, rfl⟩
      exact ⟨.inr ⟨among, different⟩, rfl⟩

/-! ## Many travellers -/

theorem ofList_append_singleton (agents : List Agent) (agent : Agent) :
    ofList (agents ++ [agent]) = (ofList agents).insert agent := by
  rw [ofList, List.foldl_append]
  rfl

/-- Identities stand in the order of their first mention. -/
theorem ids_ofList (agents : List Agent) :
    (ofList agents).ids = (agents.map Agent.id).eraseDups := by
  induction agents using List.reverseRecOn with
  | nil => rfl
  | append_singleton agents agent ih =>
      rw [ofList_append_singleton, ids_insert, ih, List.map_append, List.map_singleton,
        List.eraseDups_append]
      simp only [List.mem_eraseDups]
      split
      · rename_i known
        have nothing : [agent.id].removeAll (agents.map Agent.id) = [] := by
          simpa [List.removeAll] using known
        rw [nothing, List.eraseDups_nil, List.append_nil]
      · rename_i unknown
        have all : [agent.id].removeAll (agents.map Agent.id) = [agent.id] := by
          simpa [List.removeAll] using unknown
        rw [all]
        rfl

/-- The last of the travellers with an identity is the one that is found by it. -/
theorem get?_ofList (agents : List Agent) (id : AgentId) :
    (ofList agents).get? id = (agents.filter fun agent => agent.id = id).getLast? := by
  induction agents using List.reverseRecOn with
  | nil => simp [ofList, get?, empty]
  | append_singleton agents agent ih =>
      rw [ofList_append_singleton, get?_insert, ih, List.filter_append, List.getLast?_append]
      split
      · rename_i same
        simp [same]
      · rename_i different
        simp [Ne.symm different]

/-- The population is what comes of adding these travellers, one after the other. -/
structure Registers (population : Population) (agents : List Agent) : Prop where
  nodup : (population.toList.map Agent.id).Nodup
  /-- The identities stand in the order in which they were first added. -/
  order : population.toList.map Agent.id = (agents.map Agent.id).eraseDups
  /-- What is found is the last of the travellers with that identity. -/
  latest : ∀ id, population.get? id =
    (agents.filter fun agent : Agent => agent.id = id).getLast?
  unknown_iff : ∀ id, population.get? id = none ↔ id ∉ agents.map Agent.id
  size_eq : population.size = (agents.map Agent.id).toFinset.card
  /-- The places that are told are in the row, and lead to travellers with the identity. -/
  place_iff : ∀ (id : AgentId) (place : Nat), population.places[id]? = some place ↔
    ∃ agent, population.toList[place]? = some agent ∧ agent.id = id

/-- In `after` the traveller stands where the one with the same identity stood before, and
nothing else is different. -/
structure Replaces (population after : Population) (agent : Agent) : Prop where
  toList_eq : after.toList =
    population.toList.map fun other => if other.id = agent.id then agent else other
  places_eq : after.places = population.places
  others : ∀ id, id ≠ agent.id → after.get? id = population.get? id

theorem registers_ofList (agents : List Agent) : (ofList agents).Registers agents := by
  have ids := ids_ofList agents
  have nodup := nodup_ids (ofList agents)
  refine ⟨nodup, ids, get?_ofList agents, ?_, ?_, fun id place => place_eq_some_iff⟩
  · intro id
    rw [get?_ofList, List.getLast?_eq_none_iff, List.filter_eq_nil_iff]
    simp
  · have same : (agents.map Agent.id).toFinset = (ofList agents).ids.toFinset := by
      ext id
      simp [ids]
    rw [same, List.toFinset_card_of_nodup nodup, Population.ids, List.length_map]
    rfl

theorem replaces_insert (known : agent.id ∈ population.ids) :
    population.Replaces (population.insert agent) agent := by
  rcases mem_ids_iff.1 known with ⟨place, found⟩
  refine ⟨toList_insert_of_mem known, (insert_of_present found).2, ?_⟩
  intro id different
  rw [get?_insert, if_neg different]

/-- A population is a register in the order of first addition, whatever has been added and
how often: each identity is there once, and leads to the traveller that came last with it.
One more traveller with a known identity takes the place of the former one and changes
nothing else. -/
theorem ofList_registers (agents : List Agent) :
    (ofList agents).Registers agents ∧
      ∀ agent : Agent, ofList (agents ++ [agent]) = (ofList agents).insert agent ∧
        (agent.id ∈ agents.map Agent.id →
          (ofList agents).Replaces ((ofList agents).insert agent) agent) := by
  refine ⟨registers_ofList agents, fun agent => ⟨ofList_append_singleton agents agent, ?_⟩⟩
  intro known
  apply replaces_insert
  rw [ids_ofList, List.mem_eraseDups]
  exact known

/-- The second traveller 5 takes the place of the first one, ahead of traveller 2. -/
theorem newcomer_registers :
    let newcomer : Agent := ⟨⟨5⟩, Attributes.empty.set "age" (.whole 41)⟩
    let earlier := [Agent.bare ⟨5⟩, Agent.bare ⟨2⟩]
    newcomer.id ∈ earlier.map Agent.id ∧
      (ofList earlier).Replaces ((ofList earlier).insert newcomer) newcomer ∧
      (ofList (earlier ++ [newcomer])).toList.map Agent.id = [⟨5⟩, ⟨2⟩] ∧
      (ofList (earlier ++ [newcomer])).get? ⟨5⟩ = some newcomer := by
  intro newcomer earlier
  have known : newcomer.id ∈ earlier.map Agent.id := by decide
  have registers := (ofList_registers (earlier ++ [newcomer])).1
  refine ⟨known, ((ofList_registers earlier).2 newcomer).2 known, ?_, ?_⟩
  · rw [registers.order]
    decide
  · rw [registers.latest]
    decide

end ModeChoice.Population
