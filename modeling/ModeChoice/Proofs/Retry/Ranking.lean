import ModeChoice.Oracle.Preference
import ModeChoice.Proofs.Retry.Estimates

/-!
# Retrying along a ranking

An oracle that always proposes the foremost of the open modes, by an order that
does not change when a mode is taken out, makes the retry loop a single pass over
the modes that were open at first: they are tried in this order until one passes.

The rule-based oracle is of this kind.  It looks at nothing but the modes that are
left, and yet what the loop does with it can be read off one list, which
`PreferenceRules.ranking` writes down before anything is tried.
-/

namespace ModeChoice

/-! ## Lists of distinct modes -/

theorem distinct_filter (keep : Mode → Bool) (modes : List Mode) :
    distinct (modes.filter keep) = (distinct modes).filter keep := by
  induction modes with
  | nil => rfl
  | cons head rest ih =>
      cases kept : keep head with
      | true =>
          simp only [List.filter_cons, kept, if_true, distinct, ih, List.filter_filter,
            Bool.and_comm]
      | false =>
          -- The first mode is not kept, so that its later occurrences are not kept either.
          have same : ∀ mode ∈ distinct rest, keep mode = (keep mode && mode != head) := by
            intro mode _
            by_cases again : mode = head
            · simp [again, kept]
            · simp [again]
          simp only [List.filter_cons, kept, Bool.false_eq_true, if_false, distinct, ih,
            List.filter_filter]
          exact List.filter_congr same

theorem find?_distinct (wanted : Mode → Bool) (modes : List Mode) :
    (distinct modes).find? wanted = modes.find? wanted := by
  rw [← List.head?_filter, ← List.head?_filter, ← distinct_filter]
  cases modes.filter wanted <;> rfl

/-- Whoever stops at the first element of some kind has seen a piece of the list
from its beginning. -/
theorem takeWhile_not_append_find?_prefix {α : Type} (wanted : α → Bool) (list : List α) :
    (list.takeWhile fun element => !wanted element) ++ (list.find? wanted).toList <+: list := by
  induction list with
  | nil => simp
  | cons head rest ih =>
      cases found : wanted head with
      | true => simp [found]
      | false => simpa [found, List.prefix_cons_inj] using ih

namespace Encounter

variable {σ : Type} (encounter : Encounter)

/-! ## Any ranking -/

/-- The second half of the checks: the utility is finite, and the constraint
approves of the estimate. -/
def passes (mode : Mode) : Bool :=
  (encounter.estimate mode).isFeasible && encounter.approves (encounter.estimate mode)

/-- The oracle proposes the foremost of the modes on offer, by an order that does
not depend on which modes are left. -/
structure Follows (oracle : Oracle σ) (rank : List Mode → List Mode) : Prop where
  mem_iff : ∀ modes mode, mode ∈ rank modes ↔ mode ∈ modes
  nodup : ∀ modes, (rank modes).Nodup
  without : ∀ modes mode, rank (modes.filter (· != mode)) = (rank modes).filter (· != mode)
  foremost : ∀ left state random mode, (rank left.modes).head? = some mode →
    (oracle.propose state random (encounter.context left)).answer = .ok mode

variable {encounter} {oracle : Oracle σ} {rank : List Mode → List Mode}

theorem accepted_tryMode (mode : Mode) :
    (encounter.tryMode mode).accepted = encounter.passes mode := by
  rw [Bool.eq_iff_iff, accepted_tryMode_iff, passes, Bool.and_eq_true]

/-- A mode that is missing from an offer was proposed and rejected before. -/
theorem Rounds.rejected_before {left : OpenModes} {state : σ} {random : Random}
    {search : Search σ} (rounds : encounter.Rounds oracle left state random search)
    {before after : List Question} {question : Question}
    (asked : questionsOf search.events = before ++ question :: after) {mode : Mode}
    (offered : mode ∈ (encounter.offer left).modes) (missing : mode ∉ question.offered) :
    ∃ earlier ∈ before, earlier.proposed? = some mode ∧ ¬ encounter.Acceptable mode := by
  induction rounds generalizing before with
  | emptied nothing => simp at asked
  | unanswered something useless =>
      simp only [Search.events_exhausted, questionsOf_append, questionsOf_asking,
        questionsOf_enter, List.append_nil] at asked
      cases before with
      | nil =>
          cases (List.cons.inj asked).1
          exact absurd offered missing
      | cons first others => simp at asked
  | accepted proposed passed =>
      simp only [questionsOf_append, questionsOf_asking, questionsOf_tryMode,
        List.append_nil] at asked
      cases before with
      | nil =>
          cases (List.cons.inj asked).1
          exact absurd offered missing
      | cons first others => simp at asked
  | @rejected left state random tried rest proposed failed tail ih =>
      rw [questionsOf_round] at asked
      cases before with
      | nil =>
          cases (List.cons.inj asked).1
          exact absurd offered missing
      | cons first others =>
          rcases List.cons.inj asked with ⟨rfl, later⟩
          by_cases same : mode = tried
          · subst mode
            exact ⟨_, List.mem_cons_self, proposed, not_acceptable_of_failed proposed failed⟩
          · have still :
                mode ∈ (encounter.offer ((encounter.offer left).without tried)).modes := by
              rw [offer_offer_without, List.mem_filter]
              exact ⟨offered, by simpa using same⟩
            rcases ih later still with ⟨earlier, among, rejected⟩
            exact ⟨earlier, List.mem_cons_of_mem _ among, rejected⟩

namespace Follows

variable (follows : encounter.Follows oracle rank)

include follows

theorem rank_nil : rank [] = [] :=
  List.eq_nil_iff_forall_not_mem.2 fun mode among =>
    List.not_mem_nil ((follows.mem_iff [] mode).1 among)

/-- In a round with something on offer the foremost mode is proposed. -/
theorem leads {left : OpenModes} (state : σ) (random : Random)
    (something : (encounter.offer left).modes ≠ []) :
    ∃ first rest, rank (encounter.offer left).modes = first :: rest ∧
      (encounter.question oracle left state random).proposed? = some first := by
  cases ranked : rank (encounter.offer left).modes with
  | nil =>
      rcases List.exists_mem_of_ne_nil _ something with ⟨mode, offered⟩
      have among := (follows.mem_iff _ mode).2 offered
      rw [ranked] at among
      cases among
  | cons first rest =>
      have head : (rank (encounter.offer left).modes).head? = some first := by rw [ranked]; rfl
      have answered := follows.foremost (encounter.offer left) state random first head
      have offered := (follows.mem_iff _ first).1 (List.mem_of_mem_head? head)
      exact ⟨first, rest, rfl, Question.proposed?_eq_some_iff.2 ⟨answered, offered⟩⟩

/-- A mode that is proposed in a round leads the ranking of the modes on offer,
and the rest of the ranking is that of the next round. -/
theorem rank_offer {left : OpenModes} {state : σ} {random : Random} {mode : Mode}
    (proposed : (encounter.question oracle left state random).proposed? = some mode) :
    rank (encounter.offer left).modes =
      mode :: rank (encounter.offer ((encounter.offer left).without mode)).modes := by
  rcases follows.leads state random (List.ne_nil_of_mem (mem_offer_of_proposed proposed)) with
    ⟨first, rest, ranked, leading⟩
  cases Option.some.inj (leading.symm.trans proposed)
  have distinct := follows.nodup (encounter.offer left).modes
  rw [ranked] at distinct
  have others : rest.filter (· != mode) = rest := by
    apply List.filter_eq_self.2
    intro other among
    have differs : other ≠ mode := fun same => (List.nodup_cons.1 distinct).1 (same ▸ among)
    simpa using differs
  rw [offer_offer_without, follows.without, ranked, List.filter_cons]
  simp [others]

/-- The modes are tried in the order of the ranking until one passes, and this one
is kept. -/
theorem tries_in_order {left : OpenModes} {state : σ} {random : Random} {search : Search σ}
    (rounds : encounter.Rounds oracle left state random search) :
    estimatedModesOf search.events =
        ((rank (encounter.offer left).modes).takeWhile fun mode => !encounter.passes mode) ++
          ((rank (encounter.offer left).modes).find? encounter.passes).toList ∧
      search.kept =
        ((rank (encounter.offer left).modes).find? encounter.passes).map encounter.estimate := by
  induction rounds with
  | emptied nothing =>
      rw [nothing, follows.rank_nil]
      exact ⟨by simp, rfl⟩
  | unanswered something useless =>
      rcases follows.leads _ _ something with ⟨_, _, _, leading⟩
      cases useless.symm.trans leading
  | accepted proposed passed =>
      rw [accepted_tryMode] at passed
      rw [follows.rank_offer proposed]
      simp [passed]
  | rejected proposed failed tail ih =>
      rw [accepted_tryMode] at failed
      rw [follows.rank_offer proposed]
      simpa [failed, Search.after] using ih

/-- Every question is answered with the foremost of the modes on offer. -/
theorem leading {left : OpenModes} {state : σ} {random : Random} {search : Search σ}
    (rounds : encounter.Rounds oracle left state random search) :
    ∀ question ∈ questionsOf search.events,
      ∃ mode, question.answer = .ok mode ∧ (rank question.offered).head? = some mode := by
  have round : ∀ {left : OpenModes} {state : σ} {random : Random},
      (encounter.offer left).modes ≠ [] → ∃ mode,
        (encounter.question oracle left state random).answer = .ok mode ∧
          (rank (encounter.offer left).modes).head? = some mode := by
    intro left state random something
    rcases follows.leads state random something with ⟨first, rest, ranked, proposed⟩
    exact ⟨first, (Question.proposed?_eq_some_iff.1 proposed).1, by rw [ranked]; rfl⟩
  induction rounds with
  | emptied nothing => simp
  | unanswered something useless => simpa using round something
  | accepted proposed passed =>
      simpa using round (List.ne_nil_of_mem (mem_offer_of_proposed proposed))
  | rejected proposed failed tail ih =>
      intro question asked
      rw [questionsOf_round] at asked
      rcases List.mem_cons.1 asked with rfl | later
      · exact round (List.ne_nil_of_mem (mem_offer_of_proposed proposed))
      · exact ih question later

end Follows

end Encounter

/-! ## The ranking of the rules -/

namespace PreferenceRules

variable (rules : PreferenceRules) (agent : Agent) (trip : Trip)

/-- The open modes as they are wished for: walking first on a short trip, then the
preferred ones by preference, then the others as they stand. -/
def wishes (modes : List Mode) : List Mode :=
  let onFoot := if rules.isShort trip then [Mode.walk] else []
  (distinct (onFoot ++ rules.preference ++ modes)).filter modes.contains

/-- The open modes in the order in which the rules have them tried: as they are
wished for, but the car at the very end for those who cannot drive. -/
def ranking (modes : List Mode) : List Mode :=
  if rules.allowsCar agent then rules.wishes trip modes
  else
    (rules.wishes trip modes).filter (· != .car) ++ (rules.wishes trip modes).filter (· == .car)

variable {rules agent trip} {modes : List Mode}

theorem mem_wishes {mode : Mode} : mode ∈ rules.wishes trip modes ↔ mode ∈ modes := by
  simp only [wishes, List.mem_filter, mem_distinct, List.mem_append, List.contains_iff_mem]
  exact ⟨fun both => both.2, fun among => ⟨.inr among, among⟩⟩

theorem nodup_wishes : (rules.wishes trip modes).Nodup :=
  (nodup_distinct _).filter _

theorem wishes_without (mode : Mode) :
    rules.wishes trip (modes.filter (· != mode)) =
      (rules.wishes trip modes).filter (· != mode) := by
  have still : (modes.filter (· != mode)).contains =
      fun other => other != mode && modes.contains other := by
    funext other
    rw [Bool.eq_iff_iff]
    simp [and_comm]
  simp only [wishes, ← distinct_filter, List.filter_append, List.filter_filter, still]
  congr 3
  funext other
  cases other != mode <;> simp

theorem mem_ranked {mode : Mode} : mode ∈ rules.ranked modes ↔ mode ∈ modes := by
  by_cases preferred : mode ∈ rules.preference <;> simp [ranked, preferred]

/-- The first ranked mode of some kind.  The listed modes come first, so it does not
matter that they stand in the rest once more. -/
theorem find?_ranked (wanted : Mode → Bool) :
    (rules.ranked modes).find? wanted =
      (rules.preference ++ modes).find? fun mode => modes.contains mode && wanted mode := by
  simp only [ranked, List.find?_append, List.find?_filter, Bool.decide_and, Bool.decide_eq_true]
  cases listed : rules.preference.find? fun mode => modes.contains mode && wanted mode with
  | some mode => rfl
  | none =>
      have unlisted : ∀ mode ∈ modes, (!rules.preference.contains mode && wanted mode) =
          (modes.contains mode && wanted mode) := by
        intro mode among
        cases wishes : wanted mode with
        | false => simp
        | true =>
            have absent : mode ∉ rules.preference := by
              intro preferred
              simpa [among, wishes] using List.find?_eq_none.1 listed mode preferred
            simp [absent, among]
      rw [Option.none_or, Option.none_or, ← List.head?_filter, ← List.head?_filter,
        List.filter_congr unlisted]

/-- What is wished for first among the modes of some kind. -/
theorem find?_wishes (wanted : Mode → Bool) :
    (rules.wishes trip modes).find? wanted =
      if rules.isShort trip && modes.contains .walk && wanted .walk then some .walk
      else (rules.ranked modes).find? wanted := by
  simp only [find?_ranked, wishes, List.find?_filter, find?_distinct, List.append_assoc,
    Bool.decide_and, Bool.decide_eq_true]
  cases rules.isShort trip with
  | false => rfl
  | true =>
      simp only [if_true, List.singleton_append, List.find?_cons, Bool.true_and]
      cases modes.contains Mode.walk && wanted Mode.walk <;> rfl

/-- The rules pick what they have tried first. -/
theorem head?_ranking {first : Mode} (foremost : modes.head? = some first) :
    (rules.ranking agent trip modes).head? = some (rules.pick agent trip modes first) := by
  have among : first ∈ modes := List.mem_of_mem_head? foremost
  cases driven : rules.allowsCar agent with
  | true =>
      have all : (rules.wishes trip modes).head? =
          (rules.wishes trip modes).find? fun _ => true := by
        rw [← List.head?_filter, List.filter_true]
      have some_ranked : ((rules.ranked modes).find? fun _ => true).isSome := by
        rw [List.find?_isSome]
        exact ⟨first, mem_ranked.2 among, rfl⟩
      rcases Option.isSome_iff_exists.1 some_ranked with ⟨mode, leading⟩
      simp only [ranking, pick, driven, if_true, all, find?_wishes, leading, Bool.or_true,
        Bool.and_true]
      split <;> rfl
  | false =>
      simp only [ranking, pick, driven, Bool.false_eq_true, if_false, List.head?_append,
        List.head?_filter, find?_wishes, Bool.or_false]
      cases onFoot : rules.isShort trip && modes.contains .walk with
      | true => simp
      | false =>
          simp only [Bool.false_and, Bool.false_eq_true, if_false]
          cases other : (rules.ranked modes).find? (· != .car) with
          | some mode => rfl
          | none =>
              -- Nothing but the car is open, and the first open mode is the car.
              have alone : first = .car := by
                simpa using List.find?_eq_none.1 other first (mem_ranked.2 among)
              have open_car : ((rules.ranked modes).find? (· == .car)).isSome := by
                rw [List.find?_isSome]
                exact ⟨first, mem_ranked.2 among, by simp [alone]⟩
              rcases Option.isSome_iff_exists.1 open_car with ⟨mode, found⟩
              have car : mode = .car := by simpa using List.find?_some found
              rw [found, car, alone]
              rfl

theorem mem_ranking {mode : Mode} : mode ∈ rules.ranking agent trip modes ↔ mode ∈ modes := by
  unfold ranking
  split
  · exact mem_wishes
  · by_cases car : mode = .car <;> simp [car, mem_wishes]

theorem nodup_ranking : (rules.ranking agent trip modes).Nodup := by
  unfold ranking
  split
  · exact nodup_wishes
  · refine List.nodup_append.2 ⟨nodup_wishes.filter _, nodup_wishes.filter _, ?_⟩
    intro driven among kept last same
    simp only [List.mem_filter, bne_iff_ne, beq_iff_eq] at among last
    exact among.2 (same.trans last.2)

theorem ranking_without (mode : Mode) :
    rules.ranking agent trip (modes.filter (· != mode)) =
      (rules.ranking agent trip modes).filter (· != mode) := by
  unfold ranking
  split
  · exact wishes_without mode
  · simp only [wishes_without, List.filter_append, List.filter_filter, Bool.and_comm]

/-- For those who cannot drive, the car leads only when nothing else is open. -/
theorem eq_car_of_leading (nonDriver : rules.allowsCar agent = false)
    (leading : (rules.ranking agent trip modes).head? = some .car) :
    ∀ mode ∈ modes, mode = .car := by
  intro mode among
  by_contra other
  simp only [ranking, nonDriver, Bool.false_eq_true, if_false, List.head?_append,
    List.head?_filter] at leading
  cases found : (rules.wishes trip modes).find? (· != .car) with
  | none => simpa [other] using List.find?_eq_none.1 found mode (mem_wishes.2 among)
  | some earlier =>
      rw [found] at leading
      have car : earlier = .car := Option.some.inj leading
      simpa [car] using List.find?_some found

/-- The loop with the rules follows their ranking. -/
theorem follows (encounter : Encounter) :
    encounter.Follows rules.oracle (rules.ranking encounter.agent encounter.trip) where
  mem_iff _ _ := mem_ranking
  nodup _ := nodup_ranking
  without _ mode := ranking_without mode
  foremost left state random mode leading := by
    cases first : left.modes.head? with
    | none =>
        have nothing : left.modes = [] := List.head?_eq_none_iff.1 first
        have among := mem_ranking.1 (List.mem_of_mem_head? leading)
        simp [nothing] at among
    | some earliest =>
        rw [head?_ranking first] at leading
        have picked := Option.some.inj leading
        simp [oracle, OpenModes.first?, Encounter.context, first, picked]

/-- With the rules, the loop is one pass over a list that can be written down
beforehand: the modes that the constraint admits of the tour's, each once, in the
order of `ranking`.  What is estimated is a piece of it from its beginning, the
first mode that passes is kept, and nothing is kept only if none passes.  Those who
cannot drive are sent by car only after every other mode was proposed and rejected. -/
theorem search_follows_ranking (rules : PreferenceRules) (encounter : Encounter)
    (tour : TourModes) (random : Random) :
    let valid := tour.modes.filter encounter.admits
    let ranking := rules.ranking encounter.agent encounter.trip valid
    let search := encounter.search rules.oracle tour.candidates () random
    ranking.Nodup ∧ (∀ mode, mode ∈ ranking ↔ mode ∈ valid) ∧
    estimatedModesOf search.events =
      (ranking.takeWhile fun mode => !encounter.passes mode) ++
        (ranking.find? encounter.passes).toList ∧
    estimatedModesOf search.events <+: ranking ∧
    search.evaluated = (estimatedModesOf search.events).map encounter.estimate ∧
    search.kept = (ranking.find? encounter.passes).map encounter.estimate ∧
    (search.kept = none ↔ ∀ mode ∈ valid, encounter.passes mode = false) ∧
    (rules.allowsCar encounter.agent = false →
      ∀ before question after, questionsOf search.events = before ++ question :: after →
        question.answer = .ok .car → ∀ mode ∈ valid, mode ≠ .car →
          ∃ earlier ∈ before, earlier.answer = .ok mode ∧ ¬ encounter.Acceptable mode) := by
  intro valid ranking search
  have rounds := encounter.rounds_search rules.oracle tour.candidates () random
  have follows := rules.follows encounter
  rcases follows.tries_in_order rounds with ⟨estimated, kept⟩
  refine ⟨nodup_ranking, fun mode => mem_ranking, estimated, ?_, ?_, kept, ?_, ?_⟩
  · rw [estimated]
    exact takeWhile_not_append_find?_prefix encounter.passes ranking
  · exact rounds.evaluated_eq_map
  · rw [kept, Option.map_eq_none_iff, List.find?_eq_none]
    simp only [mem_ranking, Bool.not_eq_true]
    rfl
  · intro nonDriver before question after asked byCar mode among other
    have member : question ∈ questionsOf search.events := by simp [asked]
    rcases follows.leading rounds question member with ⟨first, answered, foremost⟩
    cases Except.ok.inj (answered.symm.trans byCar)
    have missing : mode ∉ question.offered := fun offered =>
      other (eq_car_of_leading nonDriver foremost mode offered)
    rcases rounds.rejected_before asked among missing with ⟨earlier, told, proposed, unfit⟩
    exact ⟨earlier, told, (Question.proposed?_eq_some_iff.1 proposed).1, unfit⟩

/-- Rules that like the car best, and prefer walking where it is not far. -/
def carFirst : PreferenceRules where
  preference := [.car, .bike, .car, .publicTransport]
  walkBelow := some 10
  respectsDriving := true

/-- A trip of five kilometres on which nothing but the car will do, made by somebody
who cannot drive. -/
def carOnly : Encounter where
  agent := Agent.bare ⟨7⟩
  trip := (errand 3 .car).departAt 28800
  constraint := Constraint.refusingCandidates fun _ mode => mode != .car
  estimator := Estimator.constant fun _ => some (1, 600)
  prior := []

/-- The car is tried last and kept, and what came before it was rejected. -/
theorem carFirst_leaves_car_for_the_end :
    let tour := TourModes.mk [.car, .carPassenger, .publicTransport, .bike, .walk]
      (by decide) (by decide)
    let search := carOnly.search carFirst.oracle tour.candidates () (Random.ofSeed 0)
    carFirst.allowsCar carOnly.agent = false ∧
      estimatedModesOf search.events = [.walk, .bike, .publicTransport, .carPassenger, .car] ∧
      search.kept = some (carOnly.estimate .car) ∧
      ∃ question ∈ questionsOf search.events, question.answer = .ok .bike ∧
        ¬ carOnly.Acceptable .bike := by
  intro tour search
  have nonDriver : carFirst.allowsCar carOnly.agent = false := by decide
  rcases search_follows_ranking carFirst carOnly tour (Random.ofSeed 0) with
    ⟨_, _, estimated, _, _, kept, _, last⟩
  have tried : estimatedModesOf search.events =
      [.walk, .bike, .publicTransport, .carPassenger, .car] :=
    estimated.trans (by decide +kernel)
  refine ⟨nonDriver, tried, kept.trans (by decide +kernel), ?_⟩
  have byCar : Mode.car ∈ estimatedModesOf search.events := by simp [tried]
  rw [(carOnly.rounds_search carFirst.oracle tour.candidates () (Random.ofSeed 0)).estimates]
    at byCar
  rcases List.mem_filterMap.1 byCar with ⟨question, asked, proposed⟩
  rcases List.append_of_mem asked with ⟨before, after, split⟩
  rcases last nonDriver before question after split
    (Question.proposed?_eq_some_iff.1 proposed).1 .bike (by decide) (by decide) with
    ⟨earlier, among, answered, unfit⟩
  have told : earlier ∈ before ++ question :: after := List.mem_append_left _ among
  rw [← split] at told
  exact ⟨earlier, told, answered, unfit⟩

end PreferenceRules

end ModeChoice
