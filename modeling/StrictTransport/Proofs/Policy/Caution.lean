import Mathlib.Data.List.Induction
import StrictTransport.Proofs.Policy.Build

namespace StrictTransport.Policy

-- The cautions about one pair when the keys `seen` have come before it.
def cautionsAbout (seen : List String) (pair : Pair) : List Caution :=
  (if requiredKeys.contains pair.1 && seen.contains pair.1 then [.duplicateKey pair.1] else []) ++
    if pair.1 == "mode" && (Mode.read? pair.2).isNone then [.badMode pair.2] else []

-- The last caution stands first.
def noteCautions (state : List String × List Caution) (pair : Pair) :
    List String × List Caution :=
  let seen := state.1
  (if requiredKeys.contains pair.1 && !seen.contains pair.1 then pair.1 :: seen else seen,
    (cautionsAbout seen pair).reverse ++ state.2)

def cautions (pairs : List Pair) : List Caution :=
  (pairs.foldl noteCautions ([], [])).2.reverse

-- The required keys of pairs, as the cautions about further pairs see them.
def seen (pairs : List Pair) : List String :=
  (pairs.foldl noteCautions ([], [])).1

section Append

variable (pairs : List Pair) (pair : Pair)

theorem cautions_append_singleton :
    cautions (pairs ++ [pair]) = cautions pairs ++ cautionsAbout (seen pairs) pair := by
  simp only [cautions, seen, List.foldl_append, List.foldl_cons, List.foldl_nil, noteCautions,
    List.reverse_append, List.reverse_reverse]

theorem seen_append_singleton :
    seen (pairs ++ [pair]) =
      if requiredKeys.contains pair.1 && !(seen pairs).contains pair.1 then pair.1 :: seen pairs
      else seen pairs := by
  rw [seen, List.foldl_append]
  rfl

end Append

theorem mem_seen_iff (key : String) (pairs : List Pair) :
    key ∈ seen pairs ↔ key ∈ requiredKeys ∧ values key pairs ≠ [] := by
  induction pairs using List.reverseRecOn with
  | nil => exact iff_of_false List.not_mem_nil fun h => h.2 rfl
  | append_singleton pairs pair ih =>
      obtain ⟨other, value⟩ := pair
      rw [seen_append_singleton, values_append, values_singleton]
      by_cases hkey : other = key
      · subst hkey
        by_cases hrequired : other ∈ requiredKeys <;> by_cases hseen : other ∈ seen pairs <;>
          simp_all
      · have hne : key ≠ other := Ne.symm hkey
        split <;> simp [hne, ih]

theorem count_duplicateKey_cautionsAbout (key : String) (seen : List String) (pair : Pair) :
    (cautionsAbout seen pair).count (.duplicateKey key) =
      if pair.1 = key ∧ key ∈ requiredKeys ∧ key ∈ seen then 1 else 0 := by
  have hmode : (if pair.1 == "mode" && (Mode.read? pair.2).isNone then
      [Caution.badMode pair.2] else []).count (.duplicateKey key) = 0 := by
    split <;> simp
  rw [cautionsAbout, List.count_append, hmode]
  by_cases hkey : pair.1 = key
  · subst hkey
    simp [apply_ite (List.count _)]
  · have hne : Caution.duplicateKey pair.1 ≠ .duplicateKey key := by simpa using hkey
    split <;> simp [hkey]

theorem count_badMode_cautionsAbout (value : String) (seen : List String) (pair : Pair) :
    (cautionsAbout seen pair).count (.badMode value) =
      if pair = ("mode", value) ∧ Mode.read? value = none then 1 else 0 := by
  have hkeys : (if requiredKeys.contains pair.1 && seen.contains pair.1 then
      [Caution.duplicateKey pair.1] else []).count (.badMode value) = 0 := by
    split <;> simp
  rw [cautionsAbout, List.count_append, hkeys]
  obtain ⟨key, word⟩ := pair
  by_cases hword : word = value
  · subst hword
    simp [apply_ite (List.count _)]
  · split <;> simp [hword]

-- A required key is told to be double once for each of its values but the first.
theorem count_duplicateKey (key : String) (pairs : List Pair) :
    (cautions pairs).count (.duplicateKey key) =
      if key ∈ requiredKeys then (values key pairs).length - 1 else 0 := by
  induction pairs using List.reverseRecOn with
  | nil => simp [cautions, values]
  | append_singleton pairs pair ih =>
      obtain ⟨other, value⟩ := pair
      simp only [cautions_append_singleton, List.count_append, ih, values_append, values_singleton,
        count_duplicateKey_cautionsAbout, mem_seen_iff]
      by_cases hkey : other = key
      · subst hkey
        by_cases hrequired : other ∈ requiredKeys
        · cases hvalues : values other pairs <;> simp [hrequired]
        · simp [hrequired]
      · simp [hkey]

theorem count_badMode (value : String) (pairs : List Pair) :
    (cautions pairs).count (.badMode value) =
      if Mode.read? value = none then (values "mode" pairs).count value else 0 := by
  induction pairs using List.reverseRecOn with
  | nil => simp [cautions, values]
  | append_singleton pairs pair ih =>
      obtain ⟨key, word⟩ := pair
      simp only [cautions_append_singleton, List.count_append, ih, values_append, values_singleton,
        count_badMode_cautionsAbout]
      by_cases hkey : key = "mode"
      · subst hkey
        by_cases hword : word = value <;> by_cases hread : Mode.read? value = none <;>
          simp [hword, hread]
      · simp [hkey]

theorem mem_cautions {pairs : List Pair} {caution : Caution} (h : caution ∈ cautions pairs) :
    (∃ key, caution = .duplicateKey key) ∨ ∃ value, caution = .badMode value := by
  induction pairs using List.reverseRecOn with
  | nil => cases h
  | append_singleton pairs pair ih =>
      rw [cautions_append_singleton, List.mem_append] at h
      refine h.elim ih fun hnew => ?_
      rcases List.mem_append.mp hnew with hkey | hmode
      · split at hkey
        · exact .inl ⟨_, List.mem_singleton.mp hkey⟩
        · cases hkey
      · split at hmode
        · exact .inr ⟨_, List.mem_singleton.mp hmode⟩
        · cases hmode

-- The order of the pairs settles the order of the cautions and nothing else about them.
theorem cautions_perm {first second : List Pair}
    (h : ∀ key ∈ requiredKeys, values key first = values key second) :
    (cautions first).Perm (cautions second) := by
  refine List.perm_iff_count.mpr fun caution => ?_
  by_cases hmem : caution ∈ cautions first ∨ caution ∈ cautions second
  · rcases hmem.elim mem_cautions mem_cautions with ⟨key, rfl⟩ | ⟨value, rfl⟩
    · rw [count_duplicateKey, count_duplicateKey]
      split
      · rename_i hrequired
        rw [h key hrequired]
      · rfl
    · rw [count_badMode, count_badMode, h "mode" (by decide)]
  · rw [not_or] at hmem
    rw [List.count_eq_zero.mpr hmem.1, List.count_eq_zero.mpr hmem.2]

section ClampAge

variable {limits : Limits} {mode : Mode} {age : Int}

theorem clampAge_snd (limits : Limits) (mode : Mode) (age : Int) :
    (clampAge limits mode age).2 =
      (if limits.maxAge < age then [.aboveMaxAge age limits.maxAge] else []) ++
        match mode with
        | .none => []
        | .testing =>
          if min age limits.maxAge < limits.softMinAge then
            [.belowSoftMinAge (min age limits.maxAge) limits.softMinAge]
          else []
        | .enforce =>
          if min age limits.maxAge < limits.minAge then
            [.belowMinAge (min age limits.maxAge) limits.minAge]
          else [] := by
  by_cases habove : limits.maxAge < age
  · rw [Int.min_eq_right (Int.le_of_lt habove), if_pos habove, clampAge, if_pos habove]
    cases mode
    · rfl
    · simp only
      split <;> rfl
    · simp only
      split <;> rfl
  · rw [Int.min_eq_left (Int.not_lt.mp habove), if_neg habove, clampAge, if_neg habove]
    cases mode
    · rfl
    · simp only
      split <;> rfl
    · simp only
      split <;> rfl

theorem mem_clampAge {caution : Caution} (h : caution ∈ (clampAge limits mode age).2) :
    caution = .aboveMaxAge age limits.maxAge ∨
      caution = .belowMinAge (min age limits.maxAge) limits.minAge ∨
        caution = .belowSoftMinAge (min age limits.maxAge) limits.softMinAge := by
  rw [clampAge_snd, List.mem_append] at h
  rcases h with habove | hbelow
  · split at habove
    · exact .inl (List.mem_singleton.mp habove)
    · cases habove
  · cases mode
    · cases hbelow
    · simp only at hbelow
      split at hbelow
      · exact .inr (.inr (List.mem_singleton.mp hbelow))
      · cases hbelow
    · simp only at hbelow
      split at hbelow
      · exact .inr (.inl (List.mem_singleton.mp hbelow))
      · cases hbelow

end ClampAge

end StrictTransport.Policy
