import Mathlib.Logic.Function.Basic
import ModeChoice.Proofs.Agent.Register
import ModeChoice.Selection.Model

/-!
# The seeds of travellers

In one run every traveller has a seed of its own, and in two runs with different seeds every
traveller has two.  Nothing is lost where a seed is made: the golden ratio is odd, so
multiplying by it can be undone among 64-bit words, and mixing with the seed of the run is
undone by mixing once more.  So the number of the traveller comes back from its seed and the
run's, and the seed of the run from the traveller and its seed.

This is about seeds alone.  That the streams of two seeds differ in what they draw is not
shown here.
-/

namespace ModeChoice

namespace Random

/-- What undoes the multiplication by the golden ratio. -/
def goldenInverse : UInt64 := 0xf1de83e19937733d

theorem goldenGamma_mul_goldenInverse : goldenGamma * goldenInverse = 1 := by decide

theorem mul_goldenGamma_mul_goldenInverse (word : UInt64) :
    word * goldenGamma * goldenInverse = word := by
  rw [UInt64.mul_assoc, goldenGamma_mul_goldenInverse, UInt64.mul_one]

theorem xor_xor_self (runSeed word : UInt64) : runSeed ^^^ (runSeed ^^^ word) = word := by
  rw [← UInt64.xor_assoc, UInt64.xor_self, UInt64.zero_xor]

/-- The traveller who has a seed in a run. -/
def agentOfSeed (runSeed seed : UInt64) : AgentId :=
  ⟨((runSeed ^^^ seed) * goldenInverse).toUInt32⟩

theorem agentOfSeed_agentSeed (runSeed : UInt64) (agent : AgentId) :
    agentOfSeed runSeed (agentSeed runSeed agent) = agent := by
  rw [agentOfSeed, agentSeed, xor_xor_self, mul_goldenGamma_mul_goldenInverse,
    UInt32.toUInt32_toUInt64]

/-- In one run no two travellers have the same seed. -/
theorem agentSeed_injective (runSeed : UInt64) : Function.Injective (agentSeed runSeed) :=
  Function.LeftInverse.injective (agentOfSeed_agentSeed runSeed)

/-- The seed of the run comes back where the traveller's seed takes its place. -/
theorem agentSeed_involutive (agent : AgentId) :
    Function.Involutive fun runSeed => agentSeed runSeed agent := by
  intro runSeed
  simp only [agentSeed]
  rw [UInt64.xor_assoc, UInt64.xor_self, UInt64.xor_zero]

/-! ## The seeds of a run -/

/-- The product with the golden ratio goes round the 64-bit words. -/
theorem toNat_agentSeed (runSeed : UInt64) (agent : AgentId) :
    (agentSeed runSeed agent).toNat =
      runSeed.toNat ^^^ (agent.number.toNat * 0x9e3779b97f4a7c15 % Number.count64) := by
  rw [agentSeed, UInt64.toNat_xor, UInt64.toNat_mul, UInt32.toNat_toUInt64]
  rfl

theorem nodup_seeds (runSeed : UInt64) (population : Population) :
    (population.toList.map fun agent => agentSeed runSeed agent.id).Nodup := by
  have seeds : (population.toList.map fun agent => agentSeed runSeed agent.id) =
      population.ids.map (agentSeed runSeed) := by
    rw [Population.ids, List.map_map]
    rfl
  rw [seeds]
  exact (Population.nodup_ids population).map (agentSeed_injective runSeed)

/-- No two travellers share a seed in a run, and no traveller has the same seed in two runs
with different seeds.  The stream of a tour begins with the seed of its traveller, so the
travellers of a population, whose identities differ, all begin with different seeds. -/
theorem begin_with_own_seeds :
    (∀ (runSeed : UInt64) (agent : AgentId), (agentSeed runSeed agent).toNat =
      runSeed.toNat ^^^ (agent.number.toNat * 0x9e3779b97f4a7c15 % Number.count64)) ∧
      (∀ (runSeed : UInt64) (first second : AgentId), first ≠ second →
        agentSeed runSeed first ≠ agentSeed runSeed second) ∧
      (∀ (agent : AgentId) (runSeed other : UInt64), runSeed ≠ other →
        agentSeed runSeed agent ≠ agentSeed other agent) ∧
      ∀ (σ τ : Type) (model : Model σ τ) (desk : Desk σ τ) (population : Population),
        (∀ agent : Agent,
          (model.begin agent desk).random = ofSeed (agentSeed model.seed agent.id)) ∧
        (population.toList.map fun agent => agentSeed model.seed agent.id).Nodup := by
  refine ⟨toNat_agentSeed, ?_, ?_, ?_⟩
  · intro runSeed first second different
    exact (agentSeed_injective runSeed).ne different
  · intro agent runSeed other different
    exact (agentSeed_involutive agent).injective.ne different
  · intro σ τ model desk population
    exact ⟨fun agent => rfl, nodup_seeds model.seed population⟩

/-- The last number of travellers, whose product with the golden ratio goes round the words
many times, gets another seed than the first one, and another one in another run. -/
theorem last_begins_with_own_seed :
    let first : AgentId := ⟨0⟩
    let last : AgentId := ⟨4294967295⟩
    first ≠ last ∧ agentSeed 7 first ≠ agentSeed 7 last ∧
      (7 : UInt64) ≠ 8 ∧ agentSeed 7 last ≠ agentSeed 8 last ∧
      agentSeed 7 first = 7 ∧ agentSeed 7 last = 0xe113025b80b583ec := by
  intro first last
  have different : first ≠ last := by decide
  have other : (7 : UInt64) ≠ 8 := by decide
  exact ⟨different, begin_with_own_seeds.2.1 7 first last different, other,
    begin_with_own_seeds.2.2.1 last 7 8 other, by decide, by decide⟩

end Random

end ModeChoice
