import ModeChoice.Agent.Attribute
import ModeChoice.Proofs.Number.Whole
import ModeChoice.Proofs.Text.Letters

/-!
# Encodings of attribute values

One field is stored as a flag, a number or a text, depending on who wrote it.  What such a
value stands for is told here without the lenient readings: a truth value is a flag, a number
that is zero or is not, or a spelling of one of three words; a 64-bit integer is itself, a
double with that value, or one of its numerals with white space around.

The readings see through all of them.  For truth values they find nothing else either; a whole
number is also read from a double with places, which loses them.
-/

namespace ModeChoice.AttributeValue

variable {truth : Bool} {value : AttributeValue} {text : String}

/-! ## Truth values -/

/-- The words for a truth value. -/
def flagWords : Bool → List String
  | true => ["true", "yes", "1"]
  | false => ["false", "no", "0"]

/-- The values that stand for a truth value.  A double without a value, be it infinite or no
number, is not zero. -/
inductive FlagEncoding (truth : Bool) : AttributeValue → Prop
  | flag : FlagEncoding truth (.flag truth)
  | whole {value : Int64} : (value = 0 ↔ truth = false) → FlagEncoding truth (.whole value)
  | real {value : Float} : ((Number.exact value).value? = some 0 ↔ truth = false) →
      FlagEncoding truth (.real value)
  | text {text word : String} : word ∈ flagWords truth → Text.Spells text word.toList →
      FlagEncoding truth (.text text)

theorem lowercaseAscii_eq_iff_spells {word : String} (known : word ∈ flagWords truth) :
    Text.lowercaseAscii (Text.trim text) = word ↔ Text.Spells text word.toList := by
  have plain : (word.toList.all fun c => c.toLower == c && !Text.isBlank c) = true := by
    cases truth <;> simp only [flagWords, List.mem_cons, List.not_mem_nil, or_false] at known <;>
      rcases known with rfl | rfl | rfl <;> decide
  simp only [List.all_eq_true, Bool.and_eq_true, beq_iff_eq, Bool.not_eq_true'] at plain
  apply Text.lowercaseAscii_trim_eq_iff
  · rw [List.map_congr_left fun c among => (plain c among).1, List.map_id']
  · exact fun c among => (plain c among).2

theorem readFlag?_eq_some_iff_mem :
    readFlag? text = some truth ↔ Text.lowercaseAscii (Text.trim text) ∈ flagWords truth := by
  rw [readFlag?]
  generalize Text.lowercaseAscii (Text.trim text) = word
  cases truth with
  | true =>
      simp only [flagWords, List.mem_cons, List.not_mem_nil, or_false]
      split
      · simp_all
      · split <;> simp_all
  | false =>
      simp only [flagWords, List.mem_cons, List.not_mem_nil, or_false]
      split
      · rename_i affirmed
        rcases affirmed with rfl | rfl | rfl <;> decide
      · split <;> simp_all

theorem readFlag?_eq_some_iff :
    readFlag? text = some truth ↔
      ∃ word ∈ flagWords truth, Text.Spells text word.toList := by
  rw [readFlag?_eq_some_iff_mem]
  constructor
  · intro known
    exact ⟨_, known, (lowercaseAscii_eq_iff_spells known).1 rfl⟩
  · rintro ⟨word, known, spelled⟩
    rwa [(lowercaseAscii_eq_iff_spells known).2 spelled]

/-- A value reads as a truth value if and only if it stands for it. -/
theorem asFlag?_eq_some_iff : value.asFlag? = some truth ↔ FlagEncoding truth value := by
  cases value with
  | flag value =>
      rw [asFlag?, Option.some_inj]
      constructor
      · rintro rfl
        exact .flag
      · rintro ⟨⟩
        rfl
  | whole value =>
      have zero : (value != 0) = truth ↔ (value = 0 ↔ truth = false) := by
        cases truth <;> simp
      rw [asFlag?, Option.some_inj, zero]
      exact ⟨.whole, fun | .whole same => same⟩
  | real value =>
      have zero : (!(value == 0)) = truth ↔
          ((Number.exact value).value? = some 0 ↔ truth = false) := by
        rw [Number.value?_exact_eq_zero_iff]
        cases truth <;> simp
      rw [asFlag?, Option.some_inj, zero]
      exact ⟨.real, fun | .real same => same⟩
  | text text =>
      rw [asFlag?, readFlag?_eq_some_iff]
      constructor
      · rintro ⟨word, known, spelled⟩
        exact .text known spelled
      · rintro (_ | _ | _ | ⟨known, spelled⟩)
        exact ⟨_, known, spelled⟩

/-! ## Whole numbers -/

/-- The values that stand for a whole number. -/
inductive WholeEncoding (number : Int64) : AttributeValue → Prop
  | whole : WholeEncoding number (.whole number)
  | real {value : Float} : (Number.exact value).value? = some (number.toInt : ℚ) →
      WholeEncoding number (.real value)
  | text {text : String} {before numeral after : List Char} :
      text.toList = before ++ numeral ++ after →
      (∀ c ∈ before, Text.isBlank c = true) → (∀ c ∈ after, Text.isBlank c = true) →
      Number.Numeral number.toInt numeral → WholeEncoding number (.text text)

variable {number : Int64}

theorem WholeEncoding.asWhole? (encoded : WholeEncoding number value) :
    value.asWhole? = some number := by
  cases encoded with
  | whole => rfl
  | real same =>
      rcases Number.truncateSigned_of_value same with ⟨finite, cut⟩
      rw [AttributeValue.asWhole?, if_pos finite, cut]
  | text parts before after numeral =>
      apply Number.Numeral.readInt64?
      rw [Text.toList_trim_of_parts parts before after fun _ => numeral.isBlank]
      exact numeral

/-- A whole number that is shown as text stands for the same number. -/
theorem wholeEncoding_render (number : Int64) :
    WholeEncoding number (.text (render (.whole number))) := by
  have parts : (render (.whole number)).toList = [] ++ (toString number.toInt).toList ++ [] := by
    rw [List.nil_append, List.append_nil, render]
  exact .text parts (by simp) (by simp) (Number.numeral_toString number.toInt)

theorem wholeEncoding_ofInt64 (bounded : number.toInt.natAbs ≤ 2 ^ 53) :
    WholeEncoding number (.real (.ofModel (.ofInt64 number))) :=
  .real (Number.value?_exact_ofInt64 bounded)

end ModeChoice.AttributeValue
