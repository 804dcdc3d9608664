import ModeChoice.Oracle.Preference
import ModeChoice.Oracle.Prompt
import ModeChoice.Proofs.Agent.Encodings
import ModeChoice.Selection.Availability

/-!
# Profiles of differently encoded travellers

Two producers may write the same traveller down with different encodings.  As long as flags
stand for the same truth values, age and income class for the same whole numbers, and all
else is the same, nobody who looks at the traveller through the profile can tell the two
apart: not the availability of the car, not the rule-based oracle, and not a language model
that is asked for a persona.

A flag counts as true where the attribute stands for true, and only there.  So what is absent
or cannot be read counts as false.
-/

namespace ModeChoice

open AttributeValue

namespace Attributes

/-- The attributes that are read as truth values. -/
def flagNames : List String :=
  [AttributeName.hasLicense, AttributeName.carAvailable, AttributeName.employed,
    AttributeName.nationalPass, AttributeName.networkPass, AttributeName.halfFareCard]

/-- The attributes that are read as whole numbers. -/
def wholeNames : List String :=
  [AttributeName.age, AttributeName.incomeClass]

/-- The values are the same, or they stand for the same thing under this name. -/
inductive Alike (name : String) : AttributeValue → AttributeValue → Prop
  | same (value : AttributeValue) : Alike name value value
  | flag {truth : Bool} {value value' : AttributeValue} : name ∈ flagNames →
      FlagEncoding truth value → FlagEncoding truth value' → Alike name value value'
  | whole {number : Int64} {value value' : AttributeValue} : name ∈ wholeNames →
      WholeEncoding number value → WholeEncoding number value' → Alike name value value'

theorem not_mem_wholeNames {name : String} (flagName : name ∈ flagNames) :
    name ∉ wholeNames := by
  have apart : ∀ name ∈ flagNames, name ∉ wholeNames := by decide
  exact apart name flagName

namespace Alike

variable {name : String} {value value' : AttributeValue}

theorem asFlag?_eq (alike : Alike name value value') (flagName : name ∈ flagNames) :
    value'.asFlag? = value.asFlag? := by
  cases alike with
  | same => rfl
  | flag _ one two => rw [asFlag?_eq_some_iff.2 one, asFlag?_eq_some_iff.2 two]
  | whole wholeName => exact absurd wholeName (not_mem_wholeNames flagName)

theorem asWhole?_eq (alike : Alike name value value') (wholeName : name ∈ wholeNames) :
    value'.asWhole? = value.asWhole? := by
  cases alike with
  | same => rfl
  | flag flagName => exact absurd wholeName (not_mem_wholeNames flagName)
  | whole _ one two => rw [one.asWhole?, two.asWhole?]

theorem eq_of_not_mem (alike : Alike name value value') (noFlag : name ∉ flagNames)
    (noWhole : name ∉ wholeNames) : value' = value := by
  cases alike with
  | same => rfl
  | flag flagName => exact absurd flagName noFlag
  | whole wholeName => exact absurd wholeName noWhole

end Alike

/-- The same names have values, and the values under each are alike. -/
def Recoded (before after : Attributes) : Prop :=
  ∀ name, Option.Rel (Alike name) (before.get? name) (after.get? name)

variable {before after : Attributes} {name : String}

theorem Recoded.refl (attributes : Attributes) : attributes.Recoded attributes := by
  intro name
  cases attributes.get? name with
  | none => exact .none
  | some value => exact .some (.same value)

theorem Recoded.set (recoded : before.Recoded after) {value value' : AttributeValue}
    (alike : Alike name value value') : (before.set name value).Recoded (after.set name value') := by
  intro other
  rw [get?_set, get?_set]
  split
  · rename_i same
    exact .some (same ▸ alike)
  · exact recoded other

/-- One value may be replaced by another that stands for the same thing. -/
theorem recoded_set {attributes : Attributes} {value value' : AttributeValue}
    (held : attributes.get? name = some value) (alike : Alike name value value') :
    attributes.Recoded (attributes.set name value') := by
  intro other
  rw [get?_set]
  split
  · rename_i same
    rw [same, held]
    exact .some alike
  · exact Recoded.refl attributes other

/-- A reading that agrees on values that are alike agrees on the attributes. -/
theorem Recoded.bind_eq {α : Type} (recoded : before.Recoded after)
    {read : AttributeValue → Option α}
    (agrees : ∀ value value', Alike name value value' → read value' = read value) :
    (after.get? name).bind read = (before.get? name).bind read := by
  have related := recoded name
  generalize before.get? name = held at related
  generalize after.get? name = held' at related
  cases related with
  | none => rfl
  | some alike => exact agrees _ _ alike

theorem Recoded.flag?_eq (recoded : before.Recoded after) (flagName : name ∈ flagNames) :
    after.flag? name = before.flag? name :=
  recoded.bind_eq fun _ _ alike => alike.asFlag?_eq flagName

theorem Recoded.whole?_eq (recoded : before.Recoded after) (wholeName : name ∈ wholeNames) :
    after.whole? name = before.whole? name :=
  recoded.bind_eq fun _ _ alike => alike.asWhole?_eq wholeName

theorem Recoded.text?_eq (recoded : before.Recoded after) (noFlag : name ∉ flagNames)
    (noWhole : name ∉ wholeNames) : after.text? name = before.text? name :=
  recoded.bind_eq fun _ _ alike => by rw [alike.eq_of_not_mem noFlag noWhole]

/-- The attribute is there and stands for true. -/
def Affirms (attributes : Attributes) (name : String) : Prop :=
  ∃ value, attributes.get? name = some value ∧ FlagEncoding true value

end Attributes

open Attributes

namespace Profile

variable {attributes before after : Attributes} {name : String}

theorem flag_eq_true_iff : flag attributes name = true ↔ attributes.Affirms name := by
  rw [flag, Attributes.flag?, Affirms]
  cases attributes.get? name with
  | none => simp
  | some value =>
      rw [Option.bind_some, Option.getD_eq_iff]
      simp [asFlag?_eq_some_iff]

theorem flag_eq_of_recoded (recoded : before.Recoded after) (flagName : name ∈ flagNames) :
    flag after name = flag before name := by
  rw [flag, flag, recoded.flag?_eq flagName]

theorem ofAgent_eq_of_recoded {agent twin : Agent}
    (recoded : agent.attributes.Recoded twin.attributes) : ofAgent twin = ofAgent agent := by
  have flags : ∀ name ∈ flagNames, flag twin.attributes name = flag agent.attributes name :=
    fun _ => flag_eq_of_recoded recoded
  have wholes : ∀ name ∈ wholeNames,
      twin.attributes.whole? name = agent.attributes.whole? name :=
    fun _ => recoded.whole?_eq
  have texts : ∀ name ∈ [AttributeName.sex, AttributeName.canton, AttributeName.municipalityType],
      twin.attributes.text? name = agent.attributes.text? name := by
    have apart : ∀ name ∈ [AttributeName.sex, AttributeName.canton,
        AttributeName.municipalityType], name ∉ flagNames ∧ name ∉ wholeNames := by decide
    exact fun name among => recoded.text?_eq (apart name among).1 (apart name among).2
  simp only [flagNames, wholeNames, List.forall_mem_cons, List.not_mem_nil] at flags wholes texts
  simp only [ofAgent, transitPassOf, flags, wholes, texts]

/-! ## Twins -/

/-- Two travellers look the same to everybody who looks at profiles. -/
structure SeenAlike (agent twin : Agent) : Prop where
  profile_eq : ofAgent twin = ofAgent agent
  driving_eq : (ofAgent twin).canDrive = (ofAgent agent).canDrive
  modes_eq : ∀ modes trips,
    (Availability.byDriving modes).modes twin trips =
      (Availability.byDriving modes).modes agent trips
  /-- The rules propose the same mode for every trip, and fail alike. -/
  proposal_eq : ∀ (rules : PreferenceRules) (random : Random) (context : TripContext),
    rules.oracle.propose () random { context with agent := twin } =
      rules.oracle.propose () random { context with agent }
  request_eq : Prompt.persona (ofAgent twin) = Prompt.persona (ofAgent agent)

theorem seenAlike_of_ofAgent_eq {agent twin : Agent} (same : ofAgent twin = ofAgent agent) :
    SeenAlike agent twin where
  profile_eq := same
  driving_eq := by rw [same]
  modes_eq modes trips := by simp only [Availability.byDriving, same]
  proposal_eq rules random context := by
    simp only [PreferenceRules.oracle, PreferenceRules.pick, PreferenceRules.allowsCar, same]
  request_eq := by rw [same]

/-- What the flags of a profile tell of the attributes. -/
structure CountsFlags (agent : Agent) : Prop where
  license_iff : (ofAgent agent).hasLicense = true ↔
    agent.attributes.Affirms AttributeName.hasLicense
  car_iff : (ofAgent agent).carAvailable = true ↔
    agent.attributes.Affirms AttributeName.carAvailable
  employed_iff : (ofAgent agent).employed = true ↔
    agent.attributes.Affirms AttributeName.employed
  fullPass_iff : (ofAgent agent).transitPass = "Yes" ↔
    agent.attributes.Affirms AttributeName.nationalPass ∨
      agent.attributes.Affirms AttributeName.networkPass
  halfFare_iff : (ofAgent agent).transitPass = "Half-fare card (50% reduction)" ↔
    ¬ (agent.attributes.Affirms AttributeName.nationalPass ∨
      agent.attributes.Affirms AttributeName.networkPass) ∧
        agent.attributes.Affirms AttributeName.halfFareCard
  noPass_iff : (ofAgent agent).transitPass = "No" ↔
    ¬ (agent.attributes.Affirms AttributeName.nationalPass ∨
      agent.attributes.Affirms AttributeName.networkPass) ∧
        ¬ agent.attributes.Affirms AttributeName.halfFareCard

theorem countsFlags (agent : Agent) : CountsFlags agent := by
  have passes : ∀ national network half : Bool,
      let pass := if national || network then "Yes"
        else if half then "Half-fare card (50% reduction)" else "No"
      (pass = "Yes" ↔ national = true ∨ network = true) ∧
        (pass = "Half-fare card (50% reduction)" ↔
          ¬ (national = true ∨ network = true) ∧ half = true) ∧
        (pass = "No" ↔ ¬ (national = true ∨ network = true) ∧ ¬ half = true) := by
    decide
  rcases passes (flag agent.attributes AttributeName.nationalPass)
    (flag agent.attributes AttributeName.networkPass)
    (flag agent.attributes AttributeName.halfFareCard) with ⟨full, half, none⟩
  simp only [flag_eq_true_iff] at full half none
  exact ⟨flag_eq_true_iff, flag_eq_true_iff, flag_eq_true_iff, full, half, none⟩

/-- The encoding of attributes cannot be seen in a profile, be it another one for all of them
or for a single one.  Every whole number has its decimal text and, up to `2 ^ 53`, its double
among the encodings, and a flag counts as true only where the attribute stands for true. -/
theorem ofAgent_ignores_encoding :
    (∀ agent twin : Agent, agent.attributes.Recoded twin.attributes → SeenAlike agent twin) ∧
      (∀ (agent : Agent) (name : String) (value value' : AttributeValue),
        agent.attributes.get? name = some value → Alike name value value' →
          SeenAlike agent { agent with attributes := agent.attributes.set name value' }) ∧
      (∀ number : Int64, WholeEncoding number (.text (render (.whole number))) ∧
        (number.toInt.natAbs ≤ 2 ^ 53 →
          WholeEncoding number (.real (.ofModel (.ofInt64 number))))) ∧
      ∀ agent : Agent, CountsFlags agent := by
  have seen : ∀ agent twin : Agent, agent.attributes.Recoded twin.attributes →
      SeenAlike agent twin :=
    fun _ _ recoded => seenAlike_of_ofAgent_eq (ofAgent_eq_of_recoded recoded)
  refine ⟨seen, ?_, ?_, countsFlags⟩
  · intro agent name value value' held alike
    exact seen _ _ (recoded_set held alike)
  · intro number
    exact ⟨wholeEncoding_render number, wholeEncoding_ofInt64⟩

/-- A driver of 41 years, as a producer of texts writes the attributes down. -/
def wordy : Agent where
  id := ⟨1⟩
  attributes := ((Attributes.empty.set AttributeName.age (.text " +41\u3000")).set
    AttributeName.hasLicense (.text "YES\n")).set AttributeName.carAvailable (.whole (-3))

/-- The same driver as a producer of numbers and flags writes the attributes down. -/
def terse : Agent where
  id := ⟨1⟩
  attributes := ((Attributes.empty.set AttributeName.age (.real (.ofModel (.ofInt64 41)))).set
    AttributeName.hasLicense (.flag true)).set AttributeName.carAvailable (.real 0.5)

theorem wordy_seen_as_terse :
    let halfCar := wordy.attributes.set AttributeName.carAvailable (.real 0.5)
    wordy.attributes.Recoded terse.attributes ∧ SeenAlike wordy terse ∧
      SeenAlike wordy { wordy with attributes := halfCar } ∧
      (ofAgent wordy).age = some 41 ∧ (ofAgent wordy).canDrive = true := by
  rcases ofAgent_ignores_encoding with ⟨seen, seenOnce, wholes, _⟩
  have age : Alike AttributeName.age (.text " +41\u3000") (.real (.ofModel (.ofInt64 41))) := by
    have parts : " +41\u3000".toList = [' '] ++ '+' :: Number.padded 0 41 ++ ['\u3000'] := by
      decide
    have numeral : Number.Numeral (41 : Int64).toInt ('+' :: Number.padded 0 41) := .plus 0 41
    exact .whole (by decide) (.text parts (by simp; decide) (by simp; decide) numeral)
      ((wholes 41).2 (by decide))
  have license : Alike AttributeName.hasLicense (.text "YES\n") (.flag true) := by
    have spelled : Text.Spells "YES\n" "yes".toList :=
      ⟨[], "YES".toList, ['\n'], by decide, by simp, by simp; decide, by decide⟩
    exact .flag (by decide) (.text (by decide) spelled) .flag
  have car : Alike AttributeName.carAvailable (.whole (-3)) (.real 0.5) := by
    have nonzero : FlagEncoding true (.real 0.5) := by
      refine .real ?_
      rw [Number.value?_exact_eq_zero_iff]
      decide
    exact .flag (by decide) (.whole (by decide)) nonzero
  have recoded : wordy.attributes.Recoded terse.attributes :=
    (((Recoded.refl Attributes.empty).set age).set license).set car
  have held : wordy.attributes.get? AttributeName.carAvailable = some (.whole (-3)) := by
    simp [wordy]
  exact ⟨recoded, seen _ _ recoded, seenOnce _ _ _ _ held car, by decide +kernel,
    by decide +kernel⟩

end Profile

end ModeChoice
