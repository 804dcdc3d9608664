import ModeChoice.Proofs.Oracle.Contract
import ModeChoice.Proofs.Tour.Outcome
import ModeChoice.Selection.Config

/-!
# Configured models

A configuration is checked once, before anything is built from it, and the check
is strict enough for everything that comes after it.  What it lets through is a
model, unless it asks for a language model, which cannot be reached from here; and
the only way in which a selection of that model can fail is that the policy is to
fail and a trip has no mode that will do.
-/

namespace ModeChoice

/-! ## From a configuration to a model -/

namespace OracleConfig

/-- The oracle needs a language model. -/
def AsksModel (config : OracleConfig) : Prop :=
  ∃ parameters, config = .languageModel parameters

theorem build_of_languageModel {parameters : LanguageModelConfig}
    (sound : (languageModel parameters).fault? = none) :
    (languageModel parameters).build = .error .languageModelUnsupported := by
  rw [build, sound]

theorem exists_build_of_sound {config : OracleConfig} (sound : config.fault? = none)
    (alone : ¬ config.AsksModel) :
    ∃ oracle, config.build = .ok oracle ∧ oracle.Computed := by
  cases config with
  | ruleBased preference walkBelow =>
      refine ⟨_, ?_, .preference (preferenceRules preference walkBelow)⟩
      rw [build, sound]
  | logit scale =>
      refine ⟨_, ?_, .logit (LogitRules.ofScale scale)⟩
      rw [build, sound]
  | languageModel parameters => exact absurd ⟨parameters, rfl⟩ alone

end OracleConfig

namespace Config

variable {τ : Type} (config : Config) (estimator : Estimator) (auditor : Auditor τ)

theorem validate_eq_ok_iff : config.validate = .ok () ↔ config.fault? = none := by
  unfold validate
  cases config.fault? <;> simp

theorem validate_eq_error_iff {error : ChoiceError} :
    config.validate = .error error ↔
      ∃ cause, config.fault? = some cause ∧ error = .config cause := by
  unfold validate
  cases config.fault? <;> simp [eq_comm]

/-- The check looks at the modes and at the oracle. -/
theorem fault?_eq_none_iff :
    config.fault? = none ↔ config.modes ≠ [] ∧ config.oracle.fault? = none := by
  unfold fault?
  split
  · rename_i empty
    simp [List.isEmpty_iff.1 empty]
  · rename_i filled
    simp [mt List.isEmpty_iff.2 filled]

/-- The model of a configuration, with the oracle that was built for it and with rules
and a filter of its own. -/
def model (oracle : Oracle Unit) (constraints : ConstraintFactory) (filter : TripFilter) :
    Model Unit τ where
  oracle := oracle
  estimator := estimator
  availability := Availability.fixed config.modes
  constraints := constraints
  filter := filter
  fallback := config.fallback
  interpretation := config.interpretation
  auditor := auditor
  seed := config.seed

theorem modelBuilder_of_fault {cause : ConfigError} (wrong : config.fault? = some cause) :
    config.modelBuilder estimator auditor = .error (.config cause) := by
  rw [modelBuilder, validate, wrong]
  rfl

theorem modelBuilder_of_sound (sound : config.fault? = none) :
    config.modelBuilder estimator auditor =
      (config.oracle.build.mapError ChoiceError.config).map fun oracle =>
        { oracle
          estimator
          auditor
          modes := some config.modes
          fallback := config.fallback
          interpretation := config.interpretation
          seed := config.seed } := by
  rw [modelBuilder, validate, sound]
  rfl

/-- The builder of a sound configuration can only lead to its model, whatever rules and
filter are put into it. -/
theorem exists_builder_of_built (sound : config.fault? = none) {oracle : Oracle Unit}
    (built : config.oracle.build = .ok oracle) :
    ∃ builder, config.modelBuilder estimator auditor = .ok builder ∧
      ∀ constraints filter,
        ({ builder with constraints, filter } : ModelBuilder Unit τ).build =
          .ok (config.model estimator auditor oracle constraints filter) := by
  refine ⟨_, by rw [modelBuilder_of_sound _ _ _ sound, built]; rfl, ?_⟩
  intro constraints filter
  have filled := (config.fault?_eq_none_iff.1 sound).1
  cases made : TourModes.ofList config.modes with
  | error cause => exact absurd (TourModes.ofList_eq_error_iff.1 made).1 filled
  | ok modes =>
      simp [ModelBuilder.build, ModelBuilder.resolveAvailability, made, Except.map, model]

end Config

/-! ## What its selections come to -/

namespace Model

variable {σ τ : Type} {model : Model σ τ} {frame : TourFrame}

/-- With an oracle that computes its answers, a trip is stuck when no mode will do, and
only then. -/
theorem stuck_iff_unacceptable (computed : model.oracle.Computed)
    (keeps : model.estimator.KeepsMode) (stage : Stage σ τ) :
    model.Stuck frame stage ↔ model.selects frame stage = true ∧
      ∀ mode ∈ frame.modes.modes, ¬ (model.encounterAt frame stage).Acceptable mode := by
  have rounds := model.rounds_searchAt frame stage
  have answered := rounds.proposes_of_contract (Oracle.Bundled.computed computed).keepsContract
    computed.alwaysAnswers keeps
  apply and_congr_right
  intro _
  rw [rounds.kept_eq_none_iff]
  constructor
  · rintro (⟨question, asked, useless⟩ | unacceptable)
    · exact absurd useless (answered question asked)
    · exact unacceptable
  · exact .inr

section Failures

variable {desk : Desk σ τ} {agent : Agent} {trips : List Trip} {modes : TourModes}

variable (desk) in
theorem exists_error_iff_stuck
    (found : TourModes.ofList (model.availability.modes agent trips) = .ok modes) :
    (∃ error, (model.select desk agent trips).outcome = .error error) ↔
      model.fallback = .exception ∧ ∃ stage ∈ model.history desk agent trips modes,
        model.Stuck (model.frameOf agent trips modes) stage := by
  have course := model.selectionCourse_select desk agent trips
  generalize model.select desk agent trips = selection at course ⊢
  cases course with
  | barren nothing => exact absurd nothing (modes_ne_nil_of_found found)
  | completed given journey finished =>
      exact (concludes_of_completed given journey finished).fails_iff modes found
  | reverted given journey stopped =>
      exact (concludes_of_reverted given journey stopped).fails_iff modes found
  | failed given journey stopped =>
      exact (concludes_of_failed given journey stopped).fails_iff modes found

/-- For a traveller with modes there is one error alone. -/
theorem error_eq_noFeasibleChoice
    (found : TourModes.ofList (model.availability.modes agent trips) = .ok modes)
    {error : ChoiceError} (failed : (model.select desk agent trips).outcome = .error error) :
    ∃ trip ∈ trips, error = .noFeasibleChoice agent.id trip.index := by
  have course := model.selectionCourse_select desk agent trips
  revert failed
  generalize model.select desk agent trips = selection at course
  intro failed
  cases course with
  | barren nothing => exact absurd nothing (modes_ne_nil_of_found found)
  | completed given journey finished => cases failed
  | reverted given journey stopped => cases failed
  | failed given journey stopped =>
      rcases journey.firstStuck_of_stopped stopped with ⟨place, stage, first, _, rfl, _⟩
      cases failed
      exact ⟨stage.planned, List.mem_of_getElem? (journey.planned_getElem? first.there), rfl⟩

end Failures

end Model

namespace Config

variable {τ : Type}

/-- What can be relied on in the selections of a configuration's model. -/
structure Dependable (config : Config) (model : Model Unit τ) (desk : Desk Unit τ)
    (agent : Agent) (trips : List Trip) : Prop where
  /-- There is no error but that a trip of the tour has no mode. -/
  error : ∀ error, (model.select desk agent trips).outcome = .error error →
    ∃ trip ∈ trips, error = .noFeasibleChoice agent.id trip.index
  lenient : config.fallback ≠ .exception →
    ∃ kept, (model.select desk agent trips).outcome = .ok kept
  /-- The tour has come to a trip that passes the filter and for which no configured mode
  will do. -/
  strict : config.fallback = .exception → model.estimator.KeepsMode →
    ∃ modes, TourModes.ofList config.modes = .ok modes ∧
      ((∃ error, (model.select desk agent trips).outcome = .error error) ↔
        ∃ stage ∈ model.history desk agent trips modes,
          model.selects (model.frameOf agent trips modes) stage = true ∧
          ∀ mode ∈ config.modes,
            ¬ (model.encounterAt (model.frameOf agent trips modes) stage).Acceptable mode)

/-- The model has all that it was to be made of: what the configuration says, and what was put
into the builder beside it. -/
structure Equips (config : Config) (estimator : Estimator) (auditor : Auditor τ)
    (constraints : ConstraintFactory) (filter : TripFilter) (model : Model Unit τ) : Prop where
  oracle_built : config.oracle.build = .ok model.oracle
  estimator_eq : model.estimator = estimator
  availability_eq : model.availability = Availability.fixed config.modes
  constraints_eq : model.constraints = constraints
  filter_eq : model.filter = filter
  fallback_eq : model.fallback = config.fallback
  interpretation_eq : model.interpretation = config.interpretation
  auditor_eq : model.auditor = auditor
  seed_eq : model.seed = config.seed

theorem equips_model (config : Config) (estimator : Estimator) (auditor : Auditor τ)
    {oracle : Oracle Unit} (built : config.oracle.build = .ok oracle)
    (constraints : ConstraintFactory) (filter : TripFilter) :
    config.Equips estimator auditor constraints filter
      (config.model estimator auditor oracle constraints filter) where
  oracle_built := built
  estimator_eq := rfl
  availability_eq := rfl
  constraints_eq := rfl
  filter_eq := rfl
  fallback_eq := rfl
  interpretation_eq := rfl
  auditor_eq := rfl
  seed_eq := rfl

theorem dependable_model (config : Config) (estimator : Estimator) (auditor : Auditor τ)
    (sound : config.fault? = none) {oracle : Oracle Unit} (computed : oracle.Computed)
    (constraints : ConstraintFactory) (filter : TripFilter) (desk : Desk Unit τ)
    (agent : Agent) (trips : List Trip) :
    config.Dependable (config.model estimator auditor oracle constraints filter) desk agent
      trips := by
  have filled := (config.fault?_eq_none_iff.1 sound).1
  cases found : TourModes.ofList config.modes with
  | error cause => exact absurd (TourModes.ofList_eq_error_iff.1 found).1 filled
  | ok modes =>
      -- The modes of a configured model are the same for every traveller and tour.
      have given : TourModes.ofList
          ((config.model estimator auditor oracle constraints filter).availability.modes agent
            trips) = .ok modes := found
      have fails := Model.exists_error_iff_stuck desk given
      refine ⟨fun error failed => Model.error_eq_noFeasibleChoice given failed, ?_, ?_⟩
      · intro policy
        cases outcome : ((config.model estimator auditor oracle constraints filter).select desk
            agent trips).outcome with
        | ok kept => exact ⟨kept, rfl⟩
        | error error => exact absurd (fails.1 ⟨error, outcome⟩).1 policy
      · intro policy keeps
        refine ⟨modes, found, fails.trans ?_⟩
        have among (mode : Mode) : mode ∈ modes.modes ↔ mode ∈ config.modes := by
          rw [TourModes.ofList_eq_ok_iff.1 found, mem_distinct]
        constructor
        · rintro ⟨_, stage, reached, stuck⟩
          rcases (Model.stuck_iff_unacceptable computed keeps stage).1 stuck with
            ⟨through, unacceptable⟩
          exact ⟨stage, reached, through, fun mode listed =>
            unacceptable mode ((among mode).2 listed)⟩
        · rintro ⟨stage, reached, through, unacceptable⟩
          refine ⟨policy, stage, reached, ?_⟩
          apply (Model.stuck_iff_unacceptable computed keeps stage).2
          exact ⟨through, fun mode listed => unacceptable mode ((among mode).1 listed)⟩

/-- Whatever is wrong with a configuration comes to light before there is a model.  A
configuration that is refused has no builder.  One that is accepted has a builder and a
model, with any rules and any filter, unless it needs a language model.  The model has all
that it was to be made of, and its selections can fail only for want of a mode, where the
policy is to fail then. -/
theorem faults_come_to_light (config : Config) (estimator : Estimator)
    (auditor : Auditor τ) :
    (∀ error, config.validate = .error error →
      ∃ cause, error = .config cause ∧
        config.modelBuilder estimator auditor = .error (.config cause)) ∧
    (config.validate = .ok () →
      (config.oracle.AsksModel →
        config.modelBuilder estimator auditor =
          .error (.config .languageModelUnsupported)) ∧
      (¬ config.oracle.AsksModel →
        ∃ builder, config.modelBuilder estimator auditor = .ok builder ∧
          ∀ constraints filter, ∃ model,
            ({ builder with constraints, filter } : ModelBuilder Unit τ).build = .ok model ∧
            config.Equips estimator auditor constraints filter model ∧
            ∀ desk agent trips, config.Dependable model desk agent trips)) := by
  constructor
  · intro error refused
    rcases config.validate_eq_error_iff.1 refused with ⟨cause, wrong, rfl⟩
    exact ⟨cause, rfl, config.modelBuilder_of_fault estimator auditor wrong⟩
  · intro accepted
    have sound := config.validate_eq_ok_iff.1 accepted
    have fitting := (config.fault?_eq_none_iff.1 sound).2
    constructor
    · rintro ⟨parameters, asks⟩
      rw [asks] at fitting
      rw [modelBuilder_of_sound _ _ _ sound, asks,
        OracleConfig.build_of_languageModel fitting]
      rfl
    · intro alone
      rcases OracleConfig.exists_build_of_sound fitting alone with ⟨oracle, built, computed⟩
      rcases config.exists_builder_of_built estimator auditor sound built with
        ⟨builder, made, models⟩
      refine ⟨builder, made, fun constraints filter => ⟨_, models constraints filter, ?_, ?_⟩⟩
      · exact config.equips_model estimator auditor built constraints filter
      · intro desk agent trips
        exact config.dependable_model estimator auditor sound computed constraints filter desk
          agent trips

/-- A configuration with all standard values but the modes. -/
def ofModes (modes : List Mode) : Config :=
  { modes }

/-- A configuration with a standard language model. -/
def talkative : Config :=
  { oracle := .languageModel {} }

/-- Without modes there is no builder, and with a language model there is none either.  With
two modes and the rules of the strict model the second errand fails, as neither of them will
do for it. -/
theorem twoModes_fail_for_want_of_mode :
    (ofModes []).validate = .error (.config .emptyModes) ∧
      (ofModes []).modelBuilder Estimator.urban Auditor.silent =
        .error (.config .emptyModes) ∧
      talkative.validate = .ok () ∧ talkative.oracle.AsksModel ∧
      talkative.modelBuilder Estimator.urban Auditor.silent =
        .error (.config .languageModelUnsupported) ∧
      (ofModes [.car, .walk]).validate = .ok () ∧
      ¬ (ofModes [.car, .walk]).oracle.AsksModel ∧
      ∃ builder model,
        (ofModes [.car, .walk]).modelBuilder Estimator.urban Auditor.silent = .ok builder ∧
        ({ builder with
            constraints := (Model.strict .exception).constraints
            filter := TripFilter.everyTrip } : ModelBuilder Unit Unit).build = .ok model ∧
        model.estimator.KeepsMode ∧
        (model.select (Desk.fresh () ()) (Agent.bare ⟨7⟩) [errand 2 .bike, errand 5 .car]
          ).outcome = .error (.noFeasibleChoice ⟨7⟩ 5) ∧
        ∃ modes, ∃ stage ∈ model.history (Desk.fresh () ()) (Agent.bare ⟨7⟩)
            [errand 2 .bike, errand 5 .car] modes,
          ∀ mode ∈ [Mode.car, Mode.walk],
            ¬ (model.encounterAt (model.frameOf (Agent.bare ⟨7⟩)
              [errand 2 .bike, errand 5 .car] modes) stage).Acceptable mode := by
  have refused : (ofModes []).validate = .error (.config .emptyModes) := by decide
  have talks : talkative.validate = .ok () := by decide +kernel
  have accepted : (ofModes [.car, .walk]).validate = .ok () := by decide
  have asks : talkative.oracle.AsksModel := ⟨{}, rfl⟩
  have alone : ¬ (ofModes [.car, .walk]).oracle.AsksModel := by
    rintro ⟨parameters, asks⟩
    cases asks
  rcases (faults_come_to_light (ofModes []) Estimator.urban Auditor.silent).1 _ refused with
    ⟨cause, same, unbuilt⟩
  cases same
  have unreached :=
    ((faults_come_to_light talkative Estimator.urban Auditor.silent).2 talks).1 asks
  rcases ((faults_come_to_light (ofModes [.car, .walk]) Estimator.urban
    Auditor.silent).2 accepted).2 alone with ⟨builder, made, models⟩
  rcases models (Model.strict .exception).constraints TripFilter.everyTrip with
    ⟨model, built, equips, dependable⟩
  have keeps : model.estimator.KeepsMode := by
    rw [equips.estimator_eq]
    exact Estimator.keepsMode_bySpeed _ _ _
  have failed : (model.select (Desk.fresh () ()) (Agent.bare ⟨7⟩)
      [errand 2 .bike, errand 5 .car]).outcome = .error (.noFeasibleChoice ⟨7⟩ 5) := by
    cases made
    cases built
    decide +kernel
  rcases (dependable (Desk.fresh () ()) (Agent.bare ⟨7⟩)
    [errand 2 .bike, errand 5 .car]).strict rfl keeps with ⟨modes, _, fails⟩
  rcases fails.1 ⟨_, failed⟩ with ⟨stage, reached, _, unacceptable⟩
  exact ⟨refused, unbuilt, talks, asks, unreached, accepted, alone, builder, model, made, built,
    keeps, failed, modes, stage, reached, unacceptable⟩

end Config

end ModeChoice
