import ModeChoice.Plan.Tour

/-!
# How a tour hangs together

A tour that is built from activities has one trip from each activity to the next, by the
mode at the same place of the list.  Nothing of the two lists is lost: the activities are
where the tour sets out and where its trips go, and the modes are the initial modes of the
trips.
-/

namespace ModeChoice

/-! ## Connected activities -/

/-- What cannot be taken apart into two activities and a mode connects nothing. -/
theorem length_lt_two_or_eq_nil {activities : List Activity} {modes : List Mode}
    (short : ∀ origin destination rest mode others,
      activities = origin :: destination :: rest → modes = mode :: others → False) :
    activities.length < 2 ∨ modes = [] := by
  rcases activities with _ | ⟨origin, _ | ⟨destination, rest⟩⟩
  · exact .inl (by simp)
  · exact .inl (by simp)
  · cases modes with
    | nil => exact .inr rfl
    | cons mode others => exact (short _ _ _ _ _ rfl rfl).elim

/-- The trip at a place goes from the activity there to the next one, by the mode there. -/
theorem connect_getElem?_eq_some_iff {first place : Nat} {activities : List Activity}
    {modes : List Mode} {trip : Trip} :
    (connect first activities modes)[place]? = some trip ↔
      ∃ origin destination mode, activities[place]? = some origin ∧
        activities[place + 1]? = some destination ∧ modes[place]? = some mode ∧
        trip = { index := first + place, origin, destination, initialMode := mode,
                 departureTime := none } := by
  fun_induction connect first activities modes generalizing place with
  | case1 first origin destination rest mode modes ih =>
      cases place with
      | zero => simp [eq_comm]
      | succ place =>
          rw [List.getElem?_cons_succ, ih]
          simp only [List.getElem?_cons_succ, Nat.add_assoc, Nat.add_comm 1 place]
  | case2 activities first modes short =>
      constructor
      · intro there
        cases there
      · rintro ⟨origin, destination, mode, _, next, given, _⟩
        have within : place + 1 < activities.length := (List.getElem?_eq_some_iff.1 next).1
        rcases length_lt_two_or_eq_nil short with few | rfl
        · omega
        · cases given

section Matching

variable {first : Nat} {activities : List Activity} {modes : List Mode}

theorem length_connect (matching : modes.length + 1 = activities.length) :
    (connect first activities modes).length = modes.length := by
  fun_induction connect first activities modes with
  | case1 first origin destination rest mode modes ih =>
      rw [List.length_cons, ih (Nat.succ.inj matching), List.length_cons]
  | case2 activities first modes short =>
      rcases length_lt_two_or_eq_nil short with few | rfl
      · simp only [List.length_nil]
        omega
      · rfl

theorem map_initialMode_connect (matching : modes.length + 1 = activities.length) :
    (connect first activities modes).map Trip.initialMode = modes := by
  fun_induction connect first activities modes with
  | case1 first origin destination rest mode modes ih =>
      rw [List.map_cons, ih (Nat.succ.inj matching)]
  | case2 activities first modes short =>
      rcases length_lt_two_or_eq_nil short with few | rfl
      · have none : modes = [] := List.eq_nil_of_length_eq_zero (by omega)
        rw [none]
        rfl
      · rfl

theorem map_destination_connect (matching : modes.length + 1 = activities.length) :
    (connect first activities modes).map Trip.destination = activities.tail := by
  fun_induction connect first activities modes with
  | case1 first origin destination rest mode modes ih =>
      rw [List.map_cons, ih (Nat.succ.inj matching)]
      rfl
  | case2 activities first modes short =>
      have alone : activities.tail.length = 0 := by
        rw [List.length_tail]
        rcases length_lt_two_or_eq_nil short with few | rfl
        · omega
        · rw [← matching]
          rfl
      rw [List.eq_nil_of_length_eq_zero alone]
      rfl

end Matching

/-! ## Tours -/

namespace Tour

/-- The activities of a tour whose trips hang together: where it sets out, and where each of
its trips goes. -/
def activities (tour : Tour) : List Activity :=
  (tour.trips.head?.map Trip.origin).toList ++ tour.trips.map Trip.destination

/-- The tour connects these activities by these modes. -/
structure Connects (tour : Tour) (agent : AgentId) (activities : List Activity)
    (modes : List Mode) : Prop where
  agent_eq : tour.agent = agent
  size_eq : tour.size = activities.length - 1
  /-- The trip at a place is numbered by it, goes from the activity there to the next one by
  the mode there, and is not on the clock yet. -/
  trip_iff : ∀ (place : Nat) (trip : Trip), tour.trips[place]? = some trip ↔
    ∃ origin destination mode, activities[place]? = some origin ∧
      activities[place + 1]? = some destination ∧ modes[place]? = some mode ∧
      trip = { index := place, origin, destination, initialMode := mode,
               departureTime := none }
  linked : ∀ (place : Nat) (trip next : Trip), tour.trips[place]? = some trip →
    tour.trips[place + 1]? = some next → trip.destination = next.origin
  activities_eq : tour.activities = activities
  initialModes_eq : tour.initialModes = modes

variable {agent : AgentId} {activities : List Activity} {modes : List Mode}

theorem connects_connect (enough : 2 ≤ activities.length)
    (matching : modes.length = activities.length - 1) :
    (Tour.mk agent (connect 0 activities modes)).Connects agent activities modes := by
  have lengths : modes.length + 1 = activities.length := by omega
  have trips (place : Nat) (trip : Trip) :
      (connect 0 activities modes)[place]? = some trip ↔
        ∃ origin destination mode, activities[place]? = some origin ∧
          activities[place + 1]? = some destination ∧ modes[place]? = some mode ∧
          trip = { index := place, origin, destination, initialMode := mode,
                   departureTime := none } := by
    rw [connect_getElem?_eq_some_iff, Nat.zero_add]
  refine ⟨rfl, ?_, trips, ?_, ?_, map_initialMode_connect lengths⟩
  · rw [size, length_connect lengths, matching]
  · intro place trip next here there
    rcases (trips place trip).1 here with ⟨_, destination, _, _, shared, _, rfl⟩
    rcases (trips (place + 1) next).1 there with ⟨origin, _, _, shared', _, _, rfl⟩
    exact Option.some.inj (shared.symm.trans shared')
  · rw [Tour.activities, map_destination_connect lengths]
    rcases activities with _ | ⟨origin, _ | ⟨destination, rest⟩⟩
    · simp at enough
    · simp at enough
    · cases modes with
      | nil => simp at lengths
      | cons mode modes => rfl

theorem ofActivities_of_matching (enough : 2 ≤ activities.length)
    (matching : modes.length = activities.length - 1) :
    ofActivities agent activities modes = .ok ⟨agent, connect 0 activities modes⟩ := by
  rw [ofActivities, if_neg (Nat.not_lt.2 enough), if_neg (not_not_intro matching)]

theorem ofActivities_of_few (few : activities.length < 2) :
    ofActivities agent activities modes = .error (.tooFewActivities activities.length) :=
  if_pos few

theorem ofActivities_of_mismatch (enough : 2 ≤ activities.length)
    (mismatch : modes.length ≠ activities.length - 1) :
    ofActivities agent activities modes =
      .error (.modeCountMismatch (activities.length - 1) modes.length) := by
  rw [ofActivities, if_neg (Nat.not_lt.2 enough), if_pos mismatch]

/-- A tour that connects the activities by the modes is the one that is built from them. -/
theorem Connects.unique {tour other : Tour} (connects : tour.Connects agent activities modes)
    (connects' : other.Connects agent activities modes) : tour = other := by
  rcases tour with ⟨traveller, trips⟩
  rcases other with ⟨traveller', trips'⟩
  have same : trips = trips' := by
    apply List.ext_getElem?
    intro place
    apply Option.ext
    intro trip
    exact (connects.trip_iff place trip).trans (connects'.trip_iff place trip).symm
  cases connects.agent_eq.trans connects'.agent_eq.symm
  rw [same]

/-- Activities and modes make a tour exactly where there are at least two activities and a
mode from each to the next, and then the tour connects these activities by these modes, of
which nothing is lost.  Otherwise the error tells the counts, and too few activities come
before a wrong number of modes. -/
theorem ofActivities_connects (agent : AgentId) (activities : List Activity)
    (modes : List Mode) :
    ((∃ tour, ofActivities agent activities modes = .ok tour) ↔
      2 ≤ activities.length ∧ modes.length = activities.length - 1) ∧
    (∀ tour, ofActivities agent activities modes = .ok tour ↔
      2 ≤ activities.length ∧ modes.length = activities.length - 1 ∧
        tour.Connects agent activities modes) ∧
    ∀ failure, ofActivities agent activities modes = .error failure ↔
      activities.length < 2 ∧ failure = .tooFewActivities activities.length ∨
        2 ≤ activities.length ∧ modes.length ≠ activities.length - 1 ∧
          failure = .modeCountMismatch (activities.length - 1) modes.length := by
  by_cases enough : 2 ≤ activities.length
  · by_cases matching : modes.length = activities.length - 1
    · have connects : Connects ⟨agent, connect 0 activities modes⟩ agent activities modes :=
        connects_connect enough matching
      rw [ofActivities_of_matching enough matching]
      refine ⟨by simp [enough, matching], ?_, by simp [matching, Nat.not_lt.2 enough]⟩
      intro tour
      constructor
      · intro succeeded
        cases succeeded
        exact ⟨enough, matching, connects⟩
      · rintro ⟨_, _, connects'⟩
        exact congrArg _ (connects.unique connects')
    · rw [ofActivities_of_mismatch enough matching]
      simp [enough, matching, Nat.not_lt.2 enough, eq_comm]
  · rw [ofActivities_of_few (Nat.not_le.1 enough)]
    simp [enough, Nat.not_le.1 enough, eq_comm]

end Tour

end ModeChoice
