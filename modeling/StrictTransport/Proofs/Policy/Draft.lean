import StrictTransport.Proofs.Policy.Caution

namespace StrictTransport.Policy

namespace Draft

-- What the values of each key say, whatever stands between them.
def ofValues (limits : Limits) (pairs : List Pair) : Draft where
  version := lastValue? "version" pairs
  mode := requestedMode pairs
  masks := values "mx" pairs
  age := requestedAge limits pairs
  keys := (pairs.map Prod.fst).filter (· ∈ requiredKeys)
  problems := (badAges pairs).map .badAge
  cautions := Policy.cautions pairs

section Append

variable (limits : Limits) (pairs : List Pair) (key value : String)

theorem lastValue?_append_singleton (other : String) :
    lastValue? other (pairs ++ [(key, value)]) =
      if key = other then some value else lastValue? other pairs := by
  rw [lastValue?, values_append, values_singleton]
  split
  · exact List.getLast?_concat
  · rw [List.append_nil, lastValue?]

theorem requestedMode_append_singleton :
    requestedMode (pairs ++ [(key, value)]) =
      if key = "mode" then (Mode.read? value).getD .none else requestedMode pairs := by
  rw [requestedMode, lastValue?_append_singleton, requestedMode]
  by_cases hkey : key = "mode"
  · rw [if_pos hkey, if_pos hkey, Option.bind_some]
  · rw [if_neg hkey, if_neg hkey]

theorem requestedAge_append_singleton :
    requestedAge limits (pairs ++ [(key, value)]) =
      if key = "max_age" then if isAge value then ageOf value else limits.minAge
      else requestedAge limits pairs := by
  rw [requestedAge, lastValue?_append_singleton, requestedAge]
  by_cases hkey : key = "max_age"
  · rw [if_pos hkey, if_pos hkey]
  · rw [if_neg hkey, if_neg hkey]

theorem badAges_append_singleton :
    badAges (pairs ++ [(key, value)]) =
      badAges pairs ++ if key = "max_age" ∧ isAge value = false then [value] else [] := by
  rw [badAges, values_append, values_singleton, List.filter_append, badAges]
  by_cases hkey : key = "max_age"
  · cases hage : isAge value <;> simp [hkey, hage]
  · simp [hkey]

theorem mem_keys_ofValues : key ∈ (ofValues limits pairs).keys ↔ key ∈ seen pairs := by
  simp [ofValues, mem_seen_iff, values_ne_nil_iff, and_comm]

-- What one more pair changes.
theorem ofValues_append_singleton :
    ofValues limits (pairs ++ [(key, value)]) =
      { version := if key = "version" then some value else (ofValues limits pairs).version
        mode := if key = "mode" then (Mode.read? value).getD .none else (ofValues limits pairs).mode
        masks := (ofValues limits pairs).masks ++ if key = "mx" then [value] else []
        age := if key = "max_age" then if isAge value then ageOf value else limits.minAge
          else (ofValues limits pairs).age
        keys := (ofValues limits pairs).keys ++ if key ∈ requiredKeys then [key] else []
        problems := (ofValues limits pairs).problems ++
          if key = "max_age" ∧ isAge value = false then [.badAge value] else []
        cautions := (ofValues limits pairs).cautions ++ cautionsAbout (seen pairs) (key, value) } := by
  have hkeys : [key].filter (· ∈ requiredKeys) = if key ∈ requiredKeys then [key] else [] := by
    by_cases hkey : key ∈ requiredKeys <;> simp [hkey]
  simp only [ofValues, lastValue?_append_singleton, requestedMode_append_singleton,
    requestedAge_append_singleton, badAges_append_singleton, values_append, values_singleton,
    cautions_append_singleton, List.map_append, List.filter_append, List.map_cons, List.map_nil,
    hkeys, apply_ite (List.map Problem.badAge)]

theorem noteKey_ofValues :
    noteKey key (ofValues limits pairs) =
      { ofValues limits pairs with
        keys := (ofValues limits pairs).keys ++ if key ∈ requiredKeys then [key] else []
        cautions := (ofValues limits pairs).cautions ++
          if key ∈ requiredKeys ∧ key ∈ seen pairs then [.duplicateKey key] else [] } := by
  rw [noteKey]
  by_cases hrequired : key ∈ requiredKeys
  · simp only [hrequired, if_true, true_and, mem_keys_ofValues]
  · simp only [hrequired, if_false, false_and, List.append_nil]

end Append

theorem take_ofValues (limits : Limits) (pairs : List Pair) (pair : Pair) :
    (ofValues limits pairs).take limits pair = ofValues limits (pairs ++ [pair]) := by
  obtain ⟨key, value⟩ := pair
  rw [take, noteKey_ofValues, ofValues_append_singleton]
  by_cases hversion : key = "version"
  · subst hversion
    simp [cautionsAbout, requiredKeys]
  by_cases hmode : key = "mode"
  · subst hmode
    cases hread : Mode.read? value <;> simp [cautionsAbout, requiredKeys, takeMode, hread]
  by_cases hhost : key = "mx"
  · subst hhost
    simp [cautionsAbout, requiredKeys]
  by_cases hage : key = "max_age"
  · subst hage
    cases hform : isAge value <;> simp [cautionsAbout, requiredKeys, takeAge, hform]
  · simp [cautionsAbout, requiredKeys, hversion, hmode, hhost, hage]

-- Taking the pairs one by one comes to what the values of each key say.
theorem foldl_take_eq (limits : Limits) (pairs : List Pair) :
    pairs.foldl (take limits) blank = ofValues limits pairs := by
  induction pairs using List.reverseRecOn with
  | nil => rfl
  | append_singleton pairs pair ih =>
      rw [List.foldl_append, ih]
      exact take_ofValues limits pairs pair

-- A key is missing when it has no value.
theorem filter_not_mem_keys_ofValues (limits : Limits) (pairs : List Pair) :
    requiredKeys.filter (· ∉ (ofValues limits pairs).keys) =
      requiredKeys.filter fun key => (values key pairs).isEmpty := by
  refine List.filter_congr fun key hkey => ?_
  rw [Bool.eq_iff_iff, decide_eq_true_iff, mem_keys_ofValues, mem_seen_iff, List.isEmpty_iff,
    and_iff_right hkey, ne_eq, not_not]

end Draft

section Assemble

variable (limits : Limits) (origin : Origin) (fetchTime : Int) (record : Option Record)
  (pairs : List Pair)

theorem assemble_eq :
    assemble limits origin fetchTime record pairs =
      (Draft.ofValues limits pairs).finish limits origin fetchTime record := by
  rw [assemble, Draft.foldl_take_eq]

@[simp] theorem assemble_version :
    (assemble limits origin fetchTime record pairs).version = lastValue? "version" pairs := by
  rw [assemble_eq]
  rfl

@[simp] theorem assemble_mode :
    (assemble limits origin fetchTime record pairs).mode = requestedMode pairs := by
  rw [assemble_eq]
  rfl

@[simp] theorem assemble_masks :
    (assemble limits origin fetchTime record pairs).masks = values "mx" pairs := by
  rw [assemble_eq]
  rfl

@[simp] theorem assemble_maxAge :
    (assemble limits origin fetchTime record pairs).maxAge =
      clamped limits (requestedMode pairs) (requestedAge limits pairs) := by
  rw [assemble_eq]
  exact clampAge_fst limits _ _

@[simp] theorem assemble_fetchTime :
    (assemble limits origin fetchTime record pairs).fetchTime = fetchTime := rfl

@[simp] theorem assemble_record :
    (assemble limits origin fetchTime record pairs).record = record := rfl

@[simp] theorem assemble_problems :
    (assemble limits origin fetchTime record pairs).validation.problems =
      origin.validation.problems ++ problems pairs := by
  rw [assemble_eq, problems, ← Draft.filter_not_mem_keys_ofValues limits]
  rfl

theorem assemble_cautions :
    (assemble limits origin fetchTime record pairs).validation.cautions =
      origin.validation.cautions ++ (cautions pairs ++
        (clampAge limits (requestedMode pairs) (requestedAge limits pairs)).2) := by
  rw [assemble_eq]
  rfl

-- With a fetch time there is always a policy.
theorem build_some (registrable : List String → Bool) :
    (build registrable limits origin (some fetchTime) record pairs).1 =
      .ok (assemble limits origin fetchTime record pairs) := rfl

end Assemble

end StrictTransport.Policy
