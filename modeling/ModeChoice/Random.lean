import ModeChoice.Identifier
import ModeChoice.Number.Bounds

/-!
# Random streams

Every tour has a random stream of its own, seeded by the run's seed and the
traveller's number, so that its outcome does not depend on the tours that ran
before it.  The stream is the generator xoshiro256++; its four words are
filled from the seed by eight steps of a 64-bit linear congruential generator
with permuted output.
-/

namespace ModeChoice

/-- The state of a random stream: four words. -/
structure Random where
  first : UInt64
  second : UInt64
  third : UInt64
  fourth : UInt64
  deriving DecidableEq, Repr

namespace Random

/-- The 64-bit word turned left. -/
def rotateLeft (word : UInt64) (count : UInt64) : UInt64 :=
  (word <<< count) ||| (word >>> (64 - count))

/-- The 32-bit word turned right. -/
def rotateRight (word : UInt32) (count : UInt32) : UInt32 :=
  (word >>> count) ||| (word <<< ((32 - count) % 32))

/-- One step of the seeding generator. -/
def seedStep (state : UInt64) : UInt64 :=
  state * 6364136223846793005 + 11634580027462260723

/-- The output for a state of the seeding generator. -/
def seedOutput (state : UInt64) : UInt32 :=
  rotateRight (((state >>> 18) ^^^ state) >>> 27).toUInt32 (state >>> 59).toUInt32

/-- One word of the stream's state and the seeding state after it: two outputs,
the low half first. -/
def seedWord (state : UInt64) : UInt64 × UInt64 :=
  let low := seedStep state
  let high := seedStep low
  ((seedOutput low).toUInt64 ||| ((seedOutput high).toUInt64 <<< 32), high)

/-- The state that stands in for four zero words, which would never move. -/
def nonzeroState : Random where
  first := 0xe220a8397b1dcdaf
  second := 0x6e789e6aa1b965f4
  third := 0x06c45d188009454f
  fourth := 0xf88bb8a8724c81ec

/-- The stream of a seed. -/
def ofSeed (seed : UInt64) : Random :=
  let (first, state) := seedWord seed
  let (second, state) := seedWord state
  let (third, state) := seedWord state
  let (fourth, _) := seedWord state
  if first = 0 ∧ second = 0 ∧ third = 0 ∧ fourth = 0 then nonzeroState
  else { first, second, third, fourth }

/-- The 64-bit golden ratio; it spreads neighbouring numbers of travellers over
the seeds. -/
def goldenGamma : UInt64 := 0x9e3779b97f4a7c15

/-- The seed of a traveller's stream in a run. -/
def agentSeed (runSeed : UInt64) (agent : AgentId) : UInt64 :=
  runSeed ^^^ (agent.number.toUInt64 * goldenGamma)

/-- The stream of a traveller in a run. -/
def forAgent (runSeed : UInt64) (agent : AgentId) : Random :=
  ofSeed (agentSeed runSeed agent)

/-- The next 64-bit word of the stream. -/
def word (random : Random) : UInt64 × Random :=
  let shifted := random.second <<< 17
  let third := random.third ^^^ random.first
  let fourth := random.fourth ^^^ random.second
  ( rotateLeft (random.first + random.fourth) 23 + random.first,
    { first := random.first ^^^ fourth
      second := random.second ^^^ third
      third := third ^^^ shifted
      fourth := rotateLeft fourth 45 } )

/-- The next 32-bit word: the upper half of a 64-bit one. -/
def halfWord (random : Random) : UInt32 × Random :=
  let (drawn, after) := random.word
  ((drawn >>> 32).toUInt32, after)

/-- A number drawn evenly from zero up to but not including one, out of the
upper 53 bits of a word. -/
def unit (random : Random) : Float × Random :=
  let (drawn, after) := random.word
  ((drawn >>> 11).toFloat / 9007199254740992, after)

/-- The largest low half of a product that is accepted in a draw below `count`:
with it, every index has the same number of words. -/
def acceptedUpTo (count : Nat) : Nat :=
  count * Nat.pow 2 (31 - count.log2) - 1

/-- An index drawn evenly below `count`: words are drawn until one is accepted.
More than half of all words are, so `tries` bounds the search only in name. -/
def index (count : Nat) : Nat → Random → Nat × Random
  | 0, random => (0, random)
  | tries + 1, random =>
      let (drawn, after) := random.halfWord
      let product := drawn.toNat * count
      if product % Number.count32 ≤ acceptedUpTo count then (product / Number.count32, after)
      else index count tries after

/-- One of the items, drawn evenly; nothing is drawn from an empty list. -/
def choose {α : Type} (items : List α) (random : Random) : Option α × Random :=
  if items.isEmpty then (none, random)
  else
    let (position, after) := random.index items.length 4096
    (items[position]?, after)

end Random

end ModeChoice
