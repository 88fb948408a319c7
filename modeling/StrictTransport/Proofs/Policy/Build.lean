import Mathlib.Data.List.Basic
import StrictTransport.Policy.Build
import StrictTransport.Proofs.Text.Blank
import StrictTransport.Proofs.Text.Digit

namespace StrictTransport

-- Whether a word names a mode, but for the white space around it and the case of its letters.
def Mode.Named (mode : Mode) (word : String) : Prop :=
  ∃ name : String, Text.Trims Text.isBlank word.toList name.toList ∧ lowered name = mode.name

theorem Mode.read?_eq_some_iff (word : String) (mode : Mode) :
    Mode.read? word = some mode ↔ mode.Named word := by
  have hnamed : mode.Named word ↔ lowered (trimmed word) = mode.name := by
    simp only [Named, ← Text.trimmed_eq_iff, exists_eq_left']
  rw [hnamed]
  simp only [Mode.read?, beq_iff_eq]
  split_ifs with h1 h2 h3
  all_goals cases mode <;> simp_all [Mode.name]

namespace Policy

open Text

-- What pairs ask for, key by key and whatever stands between the values of a key.
def requestedAge (limits : Limits) (pairs : List Pair) : Int :=
  match lastValue? "max_age" pairs with
  | none => 0
  | some value => if isAge value then ageOf value else limits.minAge

def requestedMode (pairs : List Pair) : Mode :=
  ((lastValue? "mode" pairs).bind Mode.read?).getD .none

def problems (pairs : List Pair) : List Problem :=
  (badAges pairs).map .badAge ++
    (requiredKeys.filter fun key => (values key pairs).isEmpty).map .missingKey

-- One to ten ASCII digits.
def AgeForm (value : String) : Prop :=
  1 ≤ value.toList.length ∧ value.toList.length ≤ 10 ∧ ∀ c ∈ value.toList, isAsciiDigit c = true

-- The number that decimal digits write.
def decimal (value : String) : Int :=
  Nat.ofDigitChars 10 value.toList 0

-- Brought below the greatest age first, and above the least one of its mode then.
def clamped (limits : Limits) : Mode → Int → Int
  | .none, age => min age limits.maxAge
  | .testing, age => max (min age limits.maxAge) limits.softMinAge
  | .enforce, age => max (min age limits.maxAge) limits.minAge

theorem clampAge_fst (limits : Limits) (mode : Mode) (age : Int) :
    (clampAge limits mode age).1 = clamped limits mode age := by
  have habove : (if limits.maxAge < age then
      (limits.maxAge, [Caution.aboveMaxAge age limits.maxAge]) else (age, [])).1 =
        min age limits.maxAge := by
    split_ifs <;> simp only <;> omega
  unfold clampAge
  generalize (if limits.maxAge < age then _ else _ : Int × List Caution) = above at habove ⊢
  obtain ⟨bounded, cautions⟩ := above
  simp only at habove
  cases mode <;> simp only [clamped]
  · exact habove
  · split_ifs <;> simp only <;> omega
  · split_ifs <;> simp only <;> omega

theorem isAge_iff (value : String) (h : '\n' ∉ value.toList) :
    isAge value = true ↔ AgeForm value := by
  have hline : Domain.withoutLineEnd value.toList = value.toList := by
    rw [Domain.withoutLineEnd, if_neg]
    intro hl
    exact h (List.mem_of_getLast? (by simpa using hl))
  simp only [isAge, hline, AgeForm, Bool.and_eq_true, decide_eq_true_eq, List.all_eq_true,
    and_assoc]

theorem ageOf_eq (value : String) (h : AgeForm value) : ageOf value = decimal value := by
  rw [ageOf, decimal, ofDigits_digits _ h.2.2]

theorem mem_values (key value : String) (pairs : List Pair) :
    value ∈ values key pairs ↔ (key, value) ∈ pairs := by
  simp only [values, List.mem_map, List.mem_filter, beq_iff_eq]
  constructor
  · rintro ⟨⟨k, v⟩, ⟨hmem, rfl⟩, rfl⟩
    exact hmem
  · intro h
    exact ⟨(key, value), ⟨h, rfl⟩, rfl⟩

theorem values_ne_nil_iff (key : String) (pairs : List Pair) :
    values key pairs ≠ [] ↔ ∃ value, (key, value) ∈ pairs := by
  simp only [← mem_values, ne_eq, List.eq_nil_iff_forall_not_mem, not_forall, not_not]

theorem values_append (key : String) (first second : List Pair) :
    values key (first ++ second) = values key first ++ values key second := by
  rw [values, List.filter_append, List.map_append]
  rfl

theorem values_singleton (key other value : String) :
    values key [(other, value)] = if other = key then [value] else [] := by
  by_cases h : other = key <;> simp [values, h]

theorem values_map (key other : String) (vs : List String) :
    values key (vs.map ((other, ·))) = if other = key then vs else [] := by
  by_cases h : other = key <;> simp [values, List.filter_map, Function.comp_def, h]

theorem problems_eq_nil_iff (pairs : List Pair) :
    problems pairs = [] ↔ (∀ value ∈ values "max_age" pairs, isAge value = true) ∧
      values "version" pairs ≠ [] ∧ values "mode" pairs ≠ [] ∧ values "max_age" pairs ≠ [] := by
  simp only [problems, badAges, requiredKeys, List.append_eq_nil_iff, List.map_eq_nil_iff,
    List.filter_eq_nil_iff, Bool.not_eq_true', Bool.not_eq_false, List.isEmpty_iff,
    List.forall_mem_cons, List.not_mem_nil, false_imp_iff, implies_true, and_true, ne_eq]

theorem isValid_iff (p : Policy) :
    p.isValid = true ↔
      p.validation.problems = [] ∧ p.mode ≠ .none ∧ 0 < p.maxAge ∧ p.masks ≠ [] := by
  simp only [isValid, Validation.ok, Bool.and_eq_true, List.isEmpty_iff, bne_iff_ne,
    decide_eq_true_eq, Bool.not_eq_true', List.isEmpty_eq_false_iff, and_assoc]

end Policy

end StrictTransport
