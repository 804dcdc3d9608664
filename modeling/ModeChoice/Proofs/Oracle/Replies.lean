import ModeChoice.Proofs.Oracle.Contract

/-!
# What a reply names

A reply names the allowed mode whose label stands first in it, and of two labels at one
place the longer.  The labels are all different, so there is never more than one such
mode, whatever order the allowed modes are in.  An answer that is a label is a case of
this and not an exception from it.

The rule looks at allowed labels alone, and a label that is not allowed hides nothing: a
reply with `car_passenger` in it is read as one with `car` in it where only `car` is
allowed.
-/

namespace ModeChoice.Reply

open Text

/-- The label of a mode as it stands in an answer. -/
abbrev word (mode : Mode) : List Char :=
  mode.label.toList

/-- The answer names a mode: it is allowed, and of the allowed labels in the answer its own
is the longest of those that stand first. -/
structure Names (answer : List Char) (allowed : List Mode) (mode : Mode) : Prop where
  member : mode ∈ allowed
  leads : ∃ place, FirstAt (word mode) answer place ∧
    ∀ other ∈ allowed, ∀ elsewhere, FirstAt (word other) answer elsewhere →
      place < elsewhere ∨ place = elsewhere ∧ (word other).length ≤ (word mode).length

/-- The mode that an answer names by the places of the labels alone. -/
def scan (response : String) (allowed : List Mode) : Except OracleError Mode :=
  match leading? (allowed.filterMap (mention? (folded response))) with
  | some mention => .ok mention.mode
  | none => .error (.unmapped response)

variable {answer : List Char} {allowed : List Mode} {mode : Mode} {response : String}

theorem word_injective {other : Mode} (same : word mode = word other) : mode = other :=
  Mode.label_injective (String.toList_inj.1 same)

/-! ## The leading mention -/

theorem mention?_eq_some_iff {mention : Mention} :
    mention? answer mode = some mention ↔
      FirstAt (word mention.mode) answer mention.place ∧ mention.mode = mode := by
  rw [mention?, Option.map_eq_some_iff]
  constructor
  · rintro ⟨place, found, rfl⟩
    exact ⟨firstOccurrence_eq_some_iff.1 found, rfl⟩
  · rintro ⟨first, rfl⟩
    exact ⟨mention.place, firstOccurrence_eq_some_iff.2 first, rfl⟩

theorem mention?_eq_none_iff :
    mention? answer mode = none ↔ ∀ place, ¬ OccursAt (word mode) answer place := by
  rw [mention?, Option.map_eq_none_iff, firstOccurrence_eq_none_iff]

theorem precedes_eq_false_iff {one other : Mention} :
    other.precedes one = false ↔
      one.place < other.place ∨
        one.place = other.place ∧ (word other.mode).length ≤ (word one.mode).length := by
  simp only [Mention.precedes, Bool.or_eq_false_iff, Bool.and_eq_false_iff,
    decide_eq_false_iff_not, beq_eq_false_iff_ne, String.length_toList]
  omega

theorem precedes_asymm {one other : Mention} (earlier : other.precedes one = true) :
    one.precedes other = false := by
  have behind : ¬ other.precedes one = false := by simp [earlier]
  rw [precedes_eq_false_iff] at behind ⊢
  omega

theorem precedes_eq_false_trans {one other third : Mention}
    (first : other.precedes one = false) (second : third.precedes other = false) :
    third.precedes one = false := by
  rw [precedes_eq_false_iff] at first second ⊢
  omega

theorem leading?_eq_none_iff {mentions : List Mention} :
    leading? mentions = none ↔ mentions = [] := by
  fun_cases leading? mentions with
  | case1 => simp
  | case2 => simp
  | case3 => simp
  | case4 => simp

/-- No mention goes before the leading one. -/
theorem precedes_leading? {mentions : List Mention} {leader other : Mention}
    (leads : leading? mentions = some leader) (among : other ∈ mentions) :
    other.precedes leader = false := by
  fun_induction leading? mentions generalizing leader other with
  | case1 => cases among
  | case2 mention rest alone ih =>
      cases leads
      rw [leading?_eq_none_iff.1 alone] at among
      rcases List.mem_singleton.1 among with rfl
      exact precedes_eq_false_iff.2 (.inr ⟨rfl, le_rfl⟩)
  | case3 mention rest found next earlier ih =>
      cases leads
      rcases List.mem_cons.1 among with rfl | among
      · exact precedes_asymm earlier
      · exact ih next among
  | case4 mention rest found next later ih =>
      cases leads
      rcases List.mem_cons.1 among with rfl | among
      · exact precedes_eq_false_iff.2 (.inr ⟨rfl, le_rfl⟩)
      · exact precedes_eq_false_trans (Bool.eq_false_iff.2 later) (ih next among)

/-! ## The mode that is named -/

/-- Of two modes that are both named, each label begins the other. -/
theorem Names.unique {other : Mode} (one : Names answer allowed mode)
    (two : Names answer allowed other) : mode = other := by
  rcases one with ⟨member, place, first, leads⟩
  rcases two with ⟨member', place', first', leads'⟩
  have forward := leads other member' place' first'
  have backward := leads' mode member place first
  have same : place = place' := by omega
  subst same
  have begins := first.here.begins first'.here (by omega)
  exact word_injective (begins.eq_of_length (by omega))

theorem Names.of_subset {others : List Mode} (named : Names answer allowed mode)
    (fewer : others ⊆ allowed) (kept : mode ∈ others) : Names answer others mode := by
  rcases named with ⟨_, place, first, leads⟩
  exact ⟨kept, place, first, fun other among => leads other (fewer among)⟩

/-- An allowed label that is the whole answer is named: no other fits in beside it. -/
theorem names_of_word (member : mode ∈ allowed) (whole : answer = word mode) :
    Names answer allowed mode := by
  subst whole
  refine ⟨member, 0, firstAt_zero.2 List.prefix_rfl, ?_⟩
  intro other _ elsewhere first
  rcases occursAt_iff.1 first.here with ⟨_, begins⟩
  have fits := begins.length_le
  rw [List.length_drop] at fits
  omega

theorem scan_eq_ok_iff :
    scan response allowed = .ok mode ↔ Names (folded response) allowed mode := by
  have sound {found : Mode} (named : scan response allowed = .ok found) :
      Names (folded response) allowed found := by
    simp only [scan] at named
    split at named
    · rename_i leader leads
      cases named
      rcases List.mem_filterMap.1 (mem_of_leading? leads) with ⟨mode, among, mentioned⟩
      rcases mention?_eq_some_iff.1 mentioned with ⟨first, rfl⟩
      refine ⟨among, leader.place, first, ?_⟩
      intro other member elsewhere there
      have rival : (⟨elsewhere, other⟩ : Mention) ∈
          allowed.filterMap (mention? (folded response)) :=
        List.mem_filterMap.2 ⟨other, member, mention?_eq_some_iff.2 ⟨there, rfl⟩⟩
      exact precedes_eq_false_iff.1 (precedes_leading? leads rival)
    · cases named
  refine ⟨sound, fun named => ?_⟩
  cases scanned : scan response allowed with
  | ok found => rw [(sound scanned).unique named]
  | error failure =>
      rcases named with ⟨member, place, first, _⟩
      simp only [scan] at scanned
      split at scanned
      · cases scanned
      · rename_i nothing
        have silent := List.filterMap_eq_nil_iff.1 (leading?_eq_none_iff.1 nothing) mode member
        exact absurd first.here (mention?_eq_none_iff.1 silent place)

theorem scan_eq_error_iff {failure : OracleError} :
    scan response allowed = .error failure ↔
      failure = .unmapped response ∧
        ∀ mode ∈ allowed, ∀ place, ¬ OccursAt (word mode) (folded response) place := by
  have silent : leading? (allowed.filterMap (mention? (folded response))) = none ↔
      ∀ mode ∈ allowed, ∀ place, ¬ OccursAt (word mode) (folded response) place := by
    rw [leading?_eq_none_iff, List.filterMap_eq_nil_iff]
    exact forall₂_congr fun _ _ => mention?_eq_none_iff
  rw [← silent, scan]
  split
  · rename_i leads
    simp [leads]
  · rename_i nothing
    simp [nothing, eq_comm]

/-- The look at whole labels never changes the answer. -/
theorem read_eq_scan (response : String) (allowed : List Mode) :
    read response allowed = scan response allowed := by
  simp only [read]
  split
  · rename_i mode found
    have whole : word mode = folded response := by
      simpa using List.find?_some found
    have named := names_of_word (List.mem_of_find?_eq_some found) whole.symm
    exact (scan_eq_ok_iff.2 named).symm
  · rfl

theorem read_eq_ok_iff :
    read response allowed = .ok mode ↔ Names (folded response) allowed mode := by
  rw [read_eq_scan, scan_eq_ok_iff]

/-- What the reading of a reply comes to. -/
structure Meaning (response : String) (allowed : List Mode) : Prop where
  named : ∀ mode,
    read response allowed = .ok mode ↔ Names (folded response) allowed mode
  unnamed : read response allowed = .error (.unmapped response) ↔
    ∀ mode ∈ allowed, ∀ place, ¬ OccursAt (word mode) (folded response) place
  /-- There is no other error. -/
  refused : ∀ failure, read response allowed = .error failure → failure = .unmapped response
  scanned : read response allowed = scan response allowed
  /-- Neither the order of the allowed modes matters nor how often one is among them. -/
  reordered : ∀ others : List Mode, (∀ mode, mode ∈ others ↔ mode ∈ allowed) →
    read response others = read response allowed
  narrowed : ∀ (others : List Mode) (mode : Mode), read response allowed = .ok mode →
    others ⊆ allowed → mode ∈ others → read response others = .ok mode
  whole : ∀ mode ∈ allowed, folded response = word mode → read response allowed = .ok mode

/-- Every reply has the meaning that the places of the allowed labels in it give it. -/
theorem read_has_meaning (response : String) (allowed : List Mode) :
    Meaning response allowed where
  named _ := read_eq_ok_iff
  unnamed := by rw [read_eq_scan, scan_eq_error_iff, eq_self, true_and]
  refused failure given := by
    rw [read_eq_scan, scan_eq_error_iff] at given
    exact given.1
  scanned := read_eq_scan response allowed
  reordered others same := by
    cases reads : read response allowed with
    | ok mode =>
        have named := read_eq_ok_iff.1 reads
        have fewer : others ⊆ allowed := fun _ among => (same _).1 among
        exact read_eq_ok_iff.2 (named.of_subset fewer ((same mode).2 named.member))
    | error failure =>
        rw [read_eq_scan, scan_eq_error_iff] at reads ⊢
        exact ⟨reads.1, fun mode among => reads.2 mode ((same mode).1 among)⟩
  narrowed others mode reads fewer kept :=
    read_eq_ok_iff.2 ((read_eq_ok_iff.1 reads).of_subset fewer kept)
  whole mode member same := read_eq_ok_iff.2 (names_of_word member same)

/-- A passenger's reply stays one when other modes are taken away, and when the rest
comes in another order. -/
theorem passenger_reply_keeps_meaning :
    read "Car passenger, not car" [.carPassenger, .car, .car] = .ok .carPassenger := by
  have meaning := read_has_meaning "Car passenger, not car" Mode.all
  have reads : read "Car passenger, not car" Mode.all = .ok .carPassenger := by
    decide +kernel
  exact meaning.narrowed [.carPassenger, .car, .car] .carPassenger reads (by decide) (by decide)

/-! ## Cars and their passengers -/

/-- The answer has `car` in it elsewhere than at the front of `car_passenger`. -/
def SpeaksOfCar (answer : List Char) : Prop :=
  ∃ place, OccursAt (word .car) answer place ∧ ¬ OccursAt (word .carPassenger) answer place

theorem speaksOfCar_iff :
    SpeaksOfCar answer ↔ ∃ place, place ≤ answer.length ∧
      (OccursAt (word .car) answer place ∧ ¬ OccursAt (word .carPassenger) answer place) := by
  constructor
  · rintro ⟨place, here, alone⟩
    exact ⟨place, (occursAt_iff.1 here).1, here, alone⟩
  · rintro ⟨place, _, here, alone⟩
    exact ⟨place, here, alone⟩

instance : Decidable (SpeaksOfCar answer) :=
  decidable_of_iff _ speaksOfCar_iff.symm

theorem car_begins_iff : word .car <+: word mode ↔ mode = .car ∨ mode = .carPassenger := by
  cases mode <;> decide

/-- A reply that speaks of no car but the passenger's is read as `car` exactly where `car`
is allowed, `car_passenger` is not, and no allowed label stands further left. -/
theorem reads_passenger_as_car_iff (response : String) (allowed : List Mode) :
    read response allowed = .ok .car ∧ ¬ SpeaksOfCar (folded response) ↔
      .car ∈ allowed ∧ .carPassenger ∉ allowed ∧ ¬ SpeaksOfCar (folded response) ∧
        ∃ place, FirstAt (word .carPassenger) (folded response) place ∧
          ∀ other ∈ allowed, ∀ elsewhere,
            OccursAt (word other) (folded response) elsewhere → place ≤ elsewhere := by
  have begins : word .car <+: word .carPassenger := car_begins_iff.2 (.inr rfl)
  rw [read_eq_ok_iff]
  constructor
  · rintro ⟨⟨member, place, first, leads⟩, silent⟩
    have passenger : OccursAt (word .carPassenger) (folded response) place :=
      Classical.byContradiction fun alone => silent ⟨place, first.here, alone⟩
    have foremost : FirstAt (word .carPassenger) (folded response) place :=
      ⟨passenger, fun other there => first.first other (there.of_prefix begins)⟩
    refine ⟨member, ?_, silent, place, foremost, ?_⟩
    · intro allowed
      rcases leads _ allowed place foremost with before | ⟨_, longer⟩
      · exact Nat.lt_irrefl _ before
      · exact absurd longer (by decide)
    · intro other allowed elsewhere there
      rcases there.exists_first with ⟨start, before, stands⟩
      have := leads other allowed start stands
      omega
  · rintro ⟨member, forbidden, silent, place, foremost, leads⟩
    refine ⟨⟨member, place, ?_, ?_⟩, silent⟩
    · exact ⟨foremost.here.of_prefix begins, leads _ member⟩
    · intro other allowed elsewhere stands
      rcases (leads other allowed elsewhere stands.here).lt_or_eq with before | rfl
      · exact .inl before
      · refine .inr ⟨rfl, ?_⟩
        -- No allowed label but `car` itself has `car` at its front.
        by_contra longer
        have behind := (foremost.here.of_prefix begins).begins stands.here (by omega)
        rcases car_begins_iff.1 behind with rfl | rfl
        · exact longer le_rfl
        · exact forbidden allowed

/-- Once the passenger's seat is rejected, asking for it again gets the car. -/
theorem passenger_reply_reads_as_car :
    read "car passenger" [.car, .walk] = .ok .car ∧
      ¬ SpeaksOfCar (folded "car passenger") := by
  decide +kernel

end ModeChoice.Reply
